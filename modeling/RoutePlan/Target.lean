import RoutePlan.Name

/-! # Targets

A route names what it dispatches to: a controller and an action, written together as
`controller#action` or apart. The declaring scope adds its namespace chain, which makes the
target a descriptor.
-/

namespace RoutePlan

structure Target where
  controller : String
  action : String
  /-- A path put between the scope's prefix and the route's own path. -/
  mount : Option String := none
  /-- A namespace segment added to the chain and, where there is no mount, to the path. -/
  space : Option String := none
deriving DecidableEq, Repr

/-- A target as it is written in a declaration. -/
inductive TargetSpec where
  | shorthand (written : String)
  | full (target : Target)
deriving DecidableEq, Repr

structure Descriptor where
  controller : String
  action : String
  chain : List String
deriving DecidableEq, Repr

namespace Target

/-- The characters either half of a shorthand may hold. -/
def isHalfChar (c : Char) : Bool := c != '#' && !Text.isBlank c

/-- The halves around the only `#`, if both are there and hold nothing else forbidden. -/
def halves? (written : List Char) : Option (List Char × List Char) :=
  let controller := written.takeWhile isHalfChar
  match written.dropWhile isHalfChar with
  | '#' :: action =>
    if controller.isEmpty || action.isEmpty || !action.all isHalfChar then none
    else some (controller, action)
  | _ => none

def parse (written : String) : Except Fault Target :=
  match halves? written.toList with
  | some (controller, action) =>
    .ok { controller := String.ofList controller, action := String.ofList action }
  | none => .error (.malformedTarget written)

/-- A target given in parts obeys the rules of the shorthand, and its namespace is a name. -/
def check (t : Target) : Except Fault Unit := do
  let written := t.controller ++ "#" ++ t.action
  if (halves? written.toList).isNone then throw (.malformedTarget written)
  match t.space with
  | some s => checkName .space s
  | none => pure ()

end Target

def TargetSpec.resolve : TargetSpec → Except Fault Target
  | .shorthand written => Target.parse written
  | .full t => do
    t.check
    return t

namespace Descriptor

/-- The chain's segments, each closed by `::`, before the shorthand. -/
def handlerName (d : Descriptor) : String :=
  String.join (d.chain.map fun s => s ++ "::") ++ d.controller ++ "#" ++ d.action

end Descriptor
end RoutePlan
