import RoutePlan.Action
import RoutePlan.Path
import RoutePlan.Singular

/-! # Resources

A resource is declared with a name and options, under a namespace chain. Resources nest:
a frame is a resource together with the resources around it, and its path runs through the
ids of all of them.
-/

namespace RoutePlan

structure ResourceOptions where
  controller : Option String := none
  keep : Option (List Action) := none
  drop : Option (List Action) := none
  space : Option String := none
  /-- The singular name under which nested resources address this one. -/
  param : Option String := none
deriving DecidableEq, Repr

def ResourceOptions.allowed (o : ResourceOptions) : List Action := Action.choose o.keep o.drop

/-- Options as they are written, with the actions still unread names. -/
structure OptionSpec where
  controller : Option String := none
  keep : Option (List String) := none
  drop : Option (List String) := none
  space : Option String := none
  param : Option String := none
deriving DecidableEq, Repr

def readActions : Option (List String) → Except Fault (Option (List Action))
  | none => .ok none
  | some names => return some (← Action.parseAll names)

/-- The actions to keep are read before those to drop. -/
def OptionSpec.resolve (o : OptionSpec) : Except Fault ResourceOptions := do
  let keep ← readActions o.keep
  let drop ← readActions o.drop
  return { controller := o.controller, keep, drop, space := o.space, param := o.param }

structure Resource where
  name : String
  options : ResourceOptions
  chain : List String
deriving DecidableEq, Repr

namespace Resource

/-- The controller is the resource's name unless an option says otherwise. -/
def declare (name : String) (options : ResourceOptions) (chain : List String) : Resource :=
  { name, chain, options := { options with controller := some (options.controller.getD name) } }

def controller (r : Resource) : String := r.options.controller.getD r.name

def param (r : Resource) : String := r.options.param.getD (singular r.name)

def allowed (r : Resource) : List Action := r.options.allowed

end Resource

/-- A resource inside the resources that enclose it. -/
inductive Frame where
  | top (resource : Resource)
  | nested (resource : Resource) (parent : Frame)
deriving DecidableEq, Repr

namespace Frame

def resource : Frame → Resource
  | .top r => r
  | .nested r _ => r

def parent? : Frame → Option Frame
  | .top _ => none
  | .nested _ p => some p

def ofParent : Option Frame → Resource → Frame
  | none, r => .top r
  | some p, r => .nested r p

def name (f : Frame) : String := f.resource.name

def controller (f : Frame) : String := f.resource.controller

def chain (f : Frame) : List String := f.resource.chain

/-- The segment by which nested resources pass through this one. -/
def passage (settings : Settings) (f : Frame) : String :=
  settings.idSegment (f.resource.param ++ "_id")

/-- The collection's path. A nested resource is reached through its parent's id, so its own
chain takes no part. -/
def collectionPath (settings : Settings) : Frame → String
  | .top r => Path.ofChain r.chain ++ "/" ++ r.name
  | .nested r p => collectionPath settings p ++ p.passage settings ++ "/" ++ r.name

/-- The path of one instance. -/
def memberPath (settings : Settings) (f : Frame) : String :=
  f.collectionPath settings ++ settings.idSegment "id"

end Frame
end RoutePlan
