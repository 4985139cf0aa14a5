import RoutePlan.Definition

/-! # Programs

A program is a plan written step by step, where a step may be attempted so that its fault
does not end the block around it. Running a program keeps a journal: the events, the scopes
entered, and for every step its outcome and the table it left.
-/

namespace RoutePlan

inductive ActionStep where
  | action (verb : String) (name : String)
  | look
  | attempt (step : ActionStep)
deriving Repr

inductive Step where
  | route (verb : String) (path : String) (target : TargetSpec)
  | space (names : List String) (block : List Step)
  | resources (name : String) (options : OptionSpec) (block : List Step)
  | actions (kind : ActionKind) (block : List ActionStep)
  | document (definition : Definition)
  | look
  | attempt (step : Step)
deriving Repr

inductive Place where
  | scope (scope : Scope)
  | actions (scope : ActionScope)
deriving DecidableEq, Repr

/-- An entry of the journal. Positions count from the outermost block inwards. -/
inductive Note (τ : Type) where
  | event (e : Event)
  | entered (position : List Nat) (place : Place)
  | finished (position : List Nat) (outcome : Except Fault Unit) (table : τ)

def Note.event? : Note τ → Option Event
  | .event e => some e
  | _ => none

abbrev Running (τ : Type) : Type → Type := Drawing τ (Note τ)

variable {τ η : Type}

/-- Run a step and enter its outcome in the journal. -/
def settle (position : List Nat) (step : Running τ Unit) : Running τ Unit := do
  let outcome ← Drawing.attempt step
  let table ← Drawing.look
  Drawing.note (.finished position outcome table)
  Drawing.ofExcept outcome

/-- Run a step and forget its fault. -/
def excuse (step : Running τ Unit) : Running τ Unit := do
  let _ ← Drawing.attempt step

def ActionStep.run (env : Surroundings τ η (Note τ)) (scope : ActionScope)
    (position : List Nat) : ActionStep → Running τ Unit
  | .action verb name => settle position do
    let verb ← Drawing.ofExcept (Verb.parse verb)
    scope.action env verb name
  | .look => settle position (Drawing.note (.entered position (.actions scope)))
  | .attempt step => excuse (step.run env scope position)

def runActions (env : Surroundings τ η (Note τ)) (scope : ActionScope) (position : List Nat)
    (index : Nat) : List ActionStep → Running τ Unit
  | [] => Drawing.done ()
  | step :: rest => do
    step.run env scope (position ++ [index])
    runActions env scope position (index + 1) rest

mutual

def Step.run (env : Surroundings τ η (Note τ)) (scope : Scope) (position : List Nat) :
    Step → Running τ Unit
  | .route verb path target => settle position do
    let verb ← Drawing.ofExcept (Verb.parse verb)
    scope.route env verb path target
  | .space names block => settle position do
    let inner ← scope.enterSpace env names
    Drawing.note (.entered position (.scope inner))
    runBlock env inner position 0 block
  | .resources name options block => settle position do
    let options ← Drawing.ofExcept options.resolve
    let inner ← scope.enterResource env name options
    Drawing.note (.entered position (.scope inner))
    runBlock env inner position 0 block
  | .actions kind block => settle position do
    let inner ← Drawing.ofExcept (scope.enterActions kind)
    Drawing.note (.entered position (.actions inner))
    runActions env inner position 0 block
  | .document definition =>
    settle position (definition.replay env scope)
  | .look => settle position (Drawing.note (.entered position (.scope scope)))
  | .attempt step => excuse (step.run env scope position)

def runBlock (env : Surroundings τ η (Note τ)) (scope : Scope) (position : List Nat)
    (index : Nat) : List Step → Running τ Unit
  | [] => Drawing.done ()
  | step :: rest => do
    step.run env scope (position ++ [index])
    runBlock env scope position (index + 1) rest

end

/-- Run a program on the root scope, growing a table the caller brings. -/
def Program.run (settings : Settings) (sink : Sink τ η) (table : τ) (program : List Step) :
    Drawn τ (Note τ) Unit :=
  runBlock ⟨settings, sink, .event⟩ .root [] 0 program table

/-- Run a program with the default settings into a fresh route table, which is given only
if no fault ends the program. -/
def Program.compile (program : List Step) :
    Except Fault RouteTable × List (Note RouteTable) :=
  let drawn := Program.run Settings.default RouteTable.sink {} program
  match drawn.outcome with
  | .error f => (.error f, drawn.notes)
  | .ok _ => (.ok drawn.table, drawn.notes ++ [.event (.blockCompiled drawn.table.size)])

end RoutePlan
