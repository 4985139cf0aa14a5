import RoutePlan.Fault

/-! # Verbs

The five HTTP methods a route can be declared for. A verb is written in any mixture of
ASCII cases, and `del` is a second spelling of `delete`.
-/

namespace RoutePlan

inductive Verb where
  | get
  | put
  | post
  | patch
  | delete
deriving DecidableEq, Repr

namespace Verb

def all : List Verb := [.get, .put, .post, .patch, .delete]

def name : Verb → String
  | .get => "get"
  | .put => "put"
  | .post => "post"
  | .patch => "patch"
  | .delete => "delete"

/-- The token of the request line. -/
def method : Verb → String
  | .get => "GET"
  | .put => "PUT"
  | .post => "POST"
  | .patch => "PATCH"
  | .delete => "DELETE"

def ofName? (written : String) : Option Verb :=
  let lower := String.ofList (written.toList.map Char.toLower)
  if lower = "del" then some .delete else all.find? fun v => v.name = lower

def parse (written : String) : Except Fault Verb :=
  match ofName? written with
  | some v => .ok v
  | none => .error (.unknownVerb written)

theorem method_injective {v w : Verb} (h : v.method = w.method) : v = w := by
  revert h
  cases v <;> cases w <;> decide

end Verb
end RoutePlan
