import RoutePlan.RouteTable
import RoutePlan.Scope

/-! # Definitions

A definition is a plan as data: declarations that are replayed onto a scope depth first, in
the order of the document. Replaying uses the scope's operations and nothing else. What an
operation takes is read from the declaration before the operation is called.
-/

namespace RoutePlan

inductive Declaration where
  | route (verb : Verb) (path : String) (target : TargetSpec)
  | space (names : List String) (block : List Declaration)
  | resources (name : String) (options : OptionSpec) (block : List Declaration)
  | actions (kind : ActionKind) (actions : List (Verb × String))
deriving Repr

structure Definition where
  declarations : List Declaration := []
deriving Repr

variable {τ η ν : Type}

def ActionScope.actions (env : Surroundings τ η ν) (scope : ActionScope) :
    List (Verb × String) → Drawing τ ν Unit
  | [] => Drawing.done ()
  | (verb, name) :: rest => do
    scope.action env verb name
    scope.actions env rest

mutual

def Declaration.replay (env : Surroundings τ η ν) (scope : Scope) :
    Declaration → Drawing τ ν Unit
  | .route verb path target => do
    let target ← Drawing.ofExcept target.resolve
    scope.route env verb path (.full target)
  | .space names block => do
    let inner ← scope.enterSpace env names
    replayAll env inner block
  | .resources name options block => do
    let options ← Drawing.ofExcept options.resolve
    let inner ← scope.enterResource env name options
    replayAll env inner block
  | .actions kind actions => do
    let inner ← Drawing.ofExcept (scope.enterActions kind)
    inner.actions env actions

def replayAll (env : Surroundings τ η ν) (scope : Scope) : List Declaration → Drawing τ ν Unit
  | [] => Drawing.done ()
  | declaration :: rest => do
    declaration.replay env scope
    replayAll env scope rest

end

namespace Definition

def replay (env : Surroundings τ η ν) (scope : Scope) (d : Definition) : Drawing τ ν Unit :=
  replayAll env scope d.declarations

/-- Replay onto the root scope with an empty route table. The table holds every route
registered before a fault. -/
def draw (settings : Settings) (d : Definition) : Drawn RouteTable Event Unit :=
  d.replay ⟨settings, RouteTable.sink, id⟩ .root {}

/-- The finished table, or the first fault, with the events of the pass. -/
def compile (settings : Settings) (d : Definition) : Except Fault RouteTable × List Event :=
  let drawn := d.draw settings
  match drawn.outcome with
  | .error f => (.error f, drawn.notes)
  | .ok _ => (.ok drawn.table, drawn.notes ++ [.definitionCompiled drawn.table.size])

end Definition
end RoutePlan
