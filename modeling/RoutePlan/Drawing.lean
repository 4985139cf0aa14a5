import RoutePlan.Event

/-! # Drawing

A drawing step works on a table that belongs to its caller. It may register routes and
report events, and it may fail; what it did before it failed stays done. The caller's table
is a type of its own with two operations: making a handler for a descriptor in view of the
table so far, and growing the table by one route.
-/

namespace RoutePlan

structure Sink (τ η : Type) where
  resolve : Descriptor → τ → η
  add : τ → Verb → String → η → τ

/-- Register one route: the handler is resolved first, against the table without the route. -/
def Sink.register (sink : Sink τ η) (table : τ) (verb : Verb) (path : String)
    (target : Descriptor) : τ :=
  sink.add table verb path (sink.resolve target table)

/-- What a step leaves behind. -/
structure Drawn (τ ν α : Type) where
  outcome : Except Fault α
  table : τ
  /-- The notes of the step in the order they were taken. -/
  notes : List ν

/-- A step on tables of type `τ` that takes notes of type `ν`. -/
def Drawing (τ ν α : Type) : Type := τ → Drawn τ ν α

namespace Drawing

def done (a : α) : Drawing τ ν α := fun table => ⟨.ok a, table, []⟩

def fail (f : Fault) : Drawing τ ν α := fun table => ⟨.error f, table, []⟩

/-- The second step runs on the table the first one left, unless the first one failed. -/
def andThen (step : Drawing τ ν α) (next : α → Drawing τ ν β) : Drawing τ ν β := fun table =>
  let first := step table
  match first.outcome with
  | .error f => ⟨.error f, first.table, first.notes⟩
  | .ok a =>
    let second := next a first.table
    ⟨second.outcome, second.table, first.notes ++ second.notes⟩

instance : Monad (Drawing τ ν) where
  pure := done
  bind := andThen

/-- A check that touches no table. -/
def ofExcept : Except Fault α → Drawing τ ν α
  | .ok a => done a
  | .error f => fail f

def note (n : ν) : Drawing τ ν Unit := fun table => ⟨.ok (), table, [n]⟩

def update (f : τ → τ) : Drawing τ ν Unit := fun table => ⟨.ok (), f table, []⟩

/-- Run a step and hand its outcome on as a value; the step as a whole succeeds. -/
def attempt (step : Drawing τ ν α) : Drawing τ ν (Except Fault α) := fun table =>
  let first := step table
  ⟨.ok first.outcome, first.table, first.notes⟩

/-- The table as it stands. -/
def look : Drawing τ ν τ := fun table => ⟨.ok table, table, []⟩

end Drawing
end RoutePlan
