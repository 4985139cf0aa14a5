import RoutePlan.Fault
import RoutePlan.Settings
import RoutePlan.Verb

/-! # Conventional actions

A resource expands to up to seven routes, always in the order of `Action.all`. Two lists may
choose among them, one of actions to keep and one of actions to drop, and the first wins.
-/

namespace RoutePlan

inductive Action where
  | index
  | detail
  | new
  | create
  | edit
  | update
  | destroy
deriving DecidableEq, Repr

namespace Action

def all : List Action := [.index, .detail, .new, .create, .edit, .update, .destroy]

def name : Action → String
  | .index => "index"
  | .detail => "show"
  | .new => "new"
  | .create => "create"
  | .edit => "edit"
  | .update => "update"
  | .destroy => "destroy"

def parse (written : String) : Except Fault Action :=
  match all.find? fun a => a.name = written with
  | some a => .ok a
  | none => .error (.unknownAction written)

def parseAll : List String → Except Fault (List Action)
  | [] => .ok []
  | s :: rest => do
    let a ← parse s
    let others ← parseAll rest
    return a :: others

def verb : Action → Verb
  | .index | .detail | .new | .edit => .get
  | .create => .post
  | .update => .put
  | .destroy => .delete

/-- What the action's path adds to the collection's path. -/
def suffix (settings : Settings) : Action → String
  | .index | .create => ""
  | .new => "/new"
  | .edit => settings.idSegment "id" ++ "/edit"
  | .detail | .update | .destroy => settings.idSegment "id"

end Action

/-- The actions a resource expands to: those in `keep` where it is given, else those not in
`drop`, else all. -/
def Action.choose (keep drop : Option (List Action)) : List Action :=
  match keep, drop with
  | some kept, _ => Action.all.filter fun a => kept.contains a
  | none, some dropped => Action.all.filter fun a => !dropped.contains a
  | none, none => Action.all

end RoutePlan
