import RoutePlan.Proofs.Course
import RoutePlan.Proofs.Program.Journal
import RoutePlan.Proofs.Program.Transport

/-! # Courses of programs

The course of a program holds the deeds of its operations and, between them, what its journal
notes besides events: the places entered and the outcomes of its steps. A fault that a program
catches is part of the course, so the course goes on where the program goes on.
-/

namespace RoutePlan

variable {τ η α : Type}

/-- An entry of the journal, before a table is there to be noted with it. -/
inductive Entry where
  | deed (d : Deed)
  | entered (position : List Nat) (place : Place)
  | finished (position : List Nat) (outcome : Except Fault Unit)

namespace Entry

def origin? : Entry → Option Origin
  | deed d => d.origin?
  | entered .. | finished .. => none

def act (env : Surroundings τ η (Note τ)) : Entry → Running τ Unit
  | deed d => d.act env
  | entered position place => Drawing.note (.entered position place)
  | finished position outcome => do
    let table ← Drawing.look
    Drawing.note (.finished position outcome table)

theorem makes_act (env : Surroundings τ η (Note τ)) (e : Entry) :
    Drawing.Makes env.sink (e.act env) (.ok ())
      (e.origin?.toList.map (·.registration env.settings)) := by
  cases e with
  | deed d => exact d.makes_act env
  | entered position place => exact Drawing.Makes.note _
  | finished position outcome => exact fun _ => ⟨rfl, rfl⟩

/-- Entries never fail by themselves. -/
theorem outcome_act (env : Surroundings τ η (Note τ)) (e : Entry) (table : τ) :
    (e.act env table).outcome = .ok () :=
  (e.makes_act env table).1

theorem entered_mem_act_notes (settings : Settings) (sink : Sink τ η) (e : Entry) (table : τ)
    (position : List Nat) (place : Place) :
    .entered position place ∈ (e.act (.running settings sink) table).notes ↔
      .entered position place = e := by
  cases e with
  | deed d =>
    have hnotes : ∃ e : Event, (d.act (.running settings sink) table).notes = [.event e] := by
      cases d <;> exact ⟨_, rfl⟩
    obtain ⟨e, he⟩ := hnotes
    simp [act, he]
  | entered position' place' => simp [act, Drawing.note]
  | finished position' outcome => simp [act, bind_apply, Drawing.look, Drawing.note]

end Entry

namespace Course

def lift (course : Course Deed α) : Course Entry α := ⟨course.outcome, course.deeds.map .deed⟩

/-- A step ends with an entry of its outcome. -/
def settled (position : List Nat) (course : Course Entry Unit) : Course Entry Unit :=
  ⟨course.outcome, course.deeds ++ [.finished position course.outcome]⟩

/-- A fault that is caught leaves what was done. -/
def excused (course : Course Entry Unit) : Course Entry Unit := ⟨.ok (), course.deeds⟩

variable (env : Surroundings τ η (Note τ))

theorem perform_lift (course : Course Deed α) :
    course.lift.perform (Entry.act env) = course.perform (Deed.act env) := by
  have hdeeds (deeds : List Deed) : Drawing.inTurn (Entry.act env) (deeds.map .deed) =
      Drawing.inTurn (Deed.act env) deeds := by
    induction deeds with
    | nil => rfl
    | cons d rest ih =>
      rw [List.map_cons, Drawing.inTurn, Drawing.inTurn, ih]
      rfl
  rw [perform, perform, ← hdeeds]
  rfl

theorem entered_mem_inTurn_notes (settings : Settings) (sink : Sink τ η) (entries : List Entry)
    (table : τ) (position : List Nat) (place : Place) :
    .entered position place ∈
        (Drawing.inTurn (Entry.act (.running settings sink)) entries table).notes ↔
      .entered position place ∈ entries := by
  induction entries generalizing table with
  | nil => simp [Drawing.inTurn, Drawing.done]
  | cons e rest ih =>
    rw [Drawing.inTurn, Drawing.bind_of_ok (e.outcome_act _ table)]
    simp only [List.mem_append, List.mem_cons, Entry.entered_mem_act_notes, ih]

theorem perform_settled (position : List Nat) (course : Course Entry Unit) :
    (course.settled position).perform (Entry.act env) =
      settle position (course.perform (Entry.act env)) := by
  funext table
  have hact := Entry.outcome_act env
  rw [settle_apply, perform_apply hact, perform_apply hact, settled, Drawing.inTurn_append,
    Drawing.inTurn_singleton, Drawing.bind_of_ok (Drawing.inTurn_outcome hact course.deeds table)]
  rfl

theorem perform_excused (course : Course Entry Unit) :
    course.excused.perform (Entry.act env) = excuse (course.perform (Entry.act env)) := by
  funext table
  have hact := Entry.outcome_act env
  rw [excuse_apply, perform_apply hact, perform_apply hact]
  rfl

end Course

/-! ## The steps of a program -/

def ActionStep.course (scope : ActionScope) (position : List Nat) :
    ActionStep → Course Entry Unit
  | .action verb name => Course.settled position do
    let verb ← Course.ofExcept (Verb.parse verb)
    (scope.actionCourse verb name).lift
  | .look => Course.settled position (Course.only (.entered position (.actions scope)))
  | .attempt step => (step.course scope position).excused

def actionsBlockCourse (scope : ActionScope) (position : List Nat) (index : Nat) :
    List ActionStep → Course Entry Unit
  | [] => pure ()
  | step :: rest => do
    step.course scope (position ++ [index])
    actionsBlockCourse scope position (index + 1) rest

mutual

def Step.course (scope : Scope) (position : List Nat) : Step → Course Entry Unit
  | .route verb path target => Course.settled position do
    let verb ← Course.ofExcept (Verb.parse verb)
    (scope.routeCourse verb path target).lift
  | .space names block => Course.settled position do
    let inner ← (scope.spaceCourse names).lift
    Course.only (.entered position (.scope inner))
    blockCourse inner position 0 block
  | .resources name options block => Course.settled position do
    let options ← Course.ofExcept options.resolve
    let inner ← (scope.resourceCourse name options).lift
    Course.only (.entered position (.scope inner))
    blockCourse inner position 0 block
  | .actions kind block => Course.settled position do
    let inner ← Course.ofExcept (scope.enterActions kind)
    Course.only (.entered position (.actions inner))
    actionsBlockCourse inner position 0 block
  | .document definition => Course.settled position (courseAll scope definition.declarations).lift
  | .look => Course.settled position (Course.only (.entered position (.scope scope)))
  | .attempt step => (step.course scope position).excused

def blockCourse (scope : Scope) (position : List Nat) (index : Nat) :
    List Step → Course Entry Unit
  | [] => pure ()
  | step :: rest => do
    step.course scope (position ++ [index])
    blockCourse scope position (index + 1) rest

end

variable (env : Surroundings τ η (Note τ))

theorem ActionStep.run_eq_perform (scope : ActionScope) (position : List Nat)
    (step : ActionStep) :
    step.run env scope position = (step.course scope position).perform (Entry.act env) := by
  induction step with
  | action verb name =>
    rw [ActionStep.course, ActionStep.run, Course.perform_settled, Course.perform_bind,
      Course.perform_ofExcept]
    congr 2
    funext verb
    rw [Course.perform_lift, ActionScope.action_eq_perform]
  | look => rw [ActionStep.course, ActionStep.run, Course.perform_settled, Course.perform_only]; rfl
  | attempt step ih => rw [ActionStep.course, ActionStep.run, Course.perform_excused, ih]

theorem runActions_eq_perform (scope : ActionScope) (position : List Nat) (index : Nat)
    (block : List ActionStep) :
    runActions env scope position index block =
      (actionsBlockCourse scope position index block).perform (Entry.act env) := by
  induction block generalizing index with
  | nil => rfl
  | cons step rest ih =>
    rw [runActions, actionsBlockCourse, Course.perform_bind, ih, step.run_eq_perform]

mutual

theorem Step.run_eq_perform (scope : Scope) (position : List Nat) (step : Step) :
    step.run env scope position = (step.course scope position).perform (Entry.act env) := by
  cases step with
  | route verb path target =>
    rw [Step.run, Step.course, Course.perform_settled, Course.perform_bind,
      Course.perform_ofExcept]
    congr 2
    funext verb
    rw [Course.perform_lift, Scope.route_eq_perform]
  | space names block =>
    rw [Step.run, Step.course, Course.perform_settled, Course.perform_bind, Course.perform_lift,
      Scope.enterSpace_eq_perform]
    congr 2
    funext inner
    rw [Course.perform_bind, Course.perform_only, runBlock_eq_perform inner position 0 block]
    rfl
  | resources name options block =>
    rw [Step.run, Step.course, Course.perform_settled, Course.perform_bind,
      Course.perform_ofExcept]
    congr 2
    funext options
    rw [Course.perform_bind, Course.perform_lift, Scope.enterResource_eq_perform]
    congr 1
    funext inner
    rw [Course.perform_bind, Course.perform_only, runBlock_eq_perform inner position 0 block]
    rfl
  | actions kind block =>
    rw [Step.run, Step.course, Course.perform_settled, Course.perform_bind,
      Course.perform_ofExcept]
    congr 2
    funext inner
    rw [Course.perform_bind, Course.perform_only, runActions_eq_perform]
    rfl
  | document definition =>
    rw [Step.run, Step.course, Course.perform_settled, Course.perform_lift, Definition.replay,
      replayAll_eq_perform]
  | look => rw [Step.run, Step.course, Course.perform_settled, Course.perform_only]; rfl
  | attempt step => rw [Step.run, Step.course, Course.perform_excused, step.run_eq_perform]

theorem runBlock_eq_perform (scope : Scope) (position : List Nat) (index : Nat)
    (block : List Step) :
    runBlock env scope position index block =
      (blockCourse scope position index block).perform (Entry.act env) := by
  cases block with
  | nil => rw [runBlock, blockCourse]; rfl
  | cons step rest =>
    rw [runBlock, blockCourse, Course.perform_bind, Step.run_eq_perform,
      runBlock_eq_perform scope position (index + 1) rest]

end

/-! ## Whole programs -/

namespace Program

/-- The course from the root. -/
def course (program : List Step) : Course Entry Unit := blockCourse .root [] 0 program

/-- Where the registrations of a program come from, in order. -/
def origins (program : List Step) : List Origin :=
  (course program).deeds.filterMap Entry.origin?

theorem run_eq_perform (settings : Settings) (sink : Sink τ η) (table : τ)
    (program : List Step) :
    Program.run settings sink table program =
      (course program).perform (Entry.act (.running settings sink)) table :=
  congrFun (runBlock_eq_perform _ .root [] 0 program) table

/-- A run ends in the outcome of the course and registers its origins, whatever the settings
and the table. -/
theorem run_makes (settings : Settings) (sink : Sink τ η) (table : τ) (program : List Step) :
    (Program.run settings sink table program).outcome = (course program).outcome ∧
      (Program.run settings sink table program).table =
        sink.enter table ((origins program).map (·.registration settings)) := by
  rw [run_eq_perform]
  exact Course.makes_perform (Entry.makes_act (.running settings sink)) (course program) table

/-- The places in the journal are the places in the course. -/
theorem entered_mem_run_notes (settings : Settings) (sink : Sink τ η) (table : τ)
    (program : List Step) (position : List Nat) (place : Place) :
    .entered position place ∈ (Program.run settings sink table program).notes ↔
      .entered position place ∈ (course program).deeds := by
  rw [run_eq_perform, Course.perform_apply (Entry.outcome_act _)]
  exact Course.entered_mem_inTurn_notes settings sink _ table position place

end Program

end RoutePlan
