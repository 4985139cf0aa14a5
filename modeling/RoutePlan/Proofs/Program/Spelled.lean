import RoutePlan.Proofs.Program.Course

/-! # Documents spelled out

What a document declares can as well be written step by step: a declaration is one step of a
program, and its block is a block of steps. A document read at a scope and the program that spells
it out do the same there. They differ in when they read what they are given. A document resolves a
target before it calls the verb, which checks the target again; a step leaves it to the verb.
-/

namespace RoutePlan

variable {τ η α β : Type}

mutual

/-- The step that spells a declaration out. -/
def Declaration.spelled : Declaration → Step
  | .route verb path target => .route verb.name path target
  | .space names block => .space names (spelledAll block)
  | .resources name options block => .resources name options (spelledAll block)
  | .actions kind actions =>
    .actions kind (actions.map fun (verb, name) => .action verb.name name)

def spelledAll : List Declaration → List Step
  | [] => []
  | d :: rest => d.spelled :: spelledAll rest

end

def Definition.spelled (d : Definition) : List Step := spelledAll d.declarations

theorem Verb.parse_name (verb : Verb) : Verb.parse verb.name = .ok verb := by
  cases verb <;> rfl

/-! ## What a program does -/

namespace Entry

def deed? : Entry → Option Deed
  | deed d => some d
  | entered .. | finished .. => none

theorem origin?_eq : origin? = fun e => e.deed?.bind Deed.origin? := by
  funext e
  cases e <;> rfl

theorem events_act (settings : Settings) (sink : Sink τ η) (e : Entry) (table : τ) :
    (e.act (.running settings sink) table).notes.filterMap Note.event? =
      e.deed?.toList.map (Deed.event settings) := by
  cases e with
  | deed d =>
    rw [act, Deed.notes_act]
    rfl
  | entered position place => rfl
  | finished position outcome => rfl

theorem events_inTurn (settings : Settings) (sink : Sink τ η) (entries : List Entry)
    (table : τ) :
    (Drawing.inTurn (Entry.act (.running settings sink)) entries table).notes.filterMap
        Note.event? = (entries.filterMap deed?).map (Deed.event settings) := by
  induction entries generalizing table with
  | nil => rfl
  | cons e rest ih =>
    rw [Drawing.inTurn, Drawing.bind_of_ok (e.outcome_act _ table), List.filterMap_append, ih,
      events_act]
    cases h : e.deed? with
    | none => simp [h]
    | some d => simp [h]

end Entry

namespace Course

/-- What a course of entries does, without what its journal notes besides. -/
def bare (course : Course Entry α) : Course Deed α := course.filterMap Entry.deed?

theorem bare_bind (course : Course Entry α) (next : α → Course Entry β) :
    (course >>= next).bare = course.bare >>= fun a => (next a).bare :=
  filterMap_bind course next

theorem bare_ofExcept (check : Except Fault α) : (ofExcept check).bare = ofExcept check := rfl

theorem bare_lift (course : Course Deed α) : course.lift.bare = course := by
  have hdeeds : (course.deeds.map Entry.deed).filterMap Entry.deed? = course.deeds := by
    rw [List.filterMap_map]
    exact List.filterMap_some
  rw [bare, filterMap, lift, hdeeds]

theorem bare_settled (position : List Nat) (course : Course Entry Unit) :
    (course.settled position).bare = course.bare := by
  simp [bare, filterMap, settled, Entry.deed?]

/-- Entering a place does nothing. -/
theorem bare_entered_bind (position : List Nat) (place : Place) (next : Unit → Course Entry α) :
    (only (.entered position place) >>= next).bare = (next ()).bare := by
  rw [bare_bind, bare, filterMap_only rfl]
  rfl

/-- On every table, performing a course of entries does what the course is bare of its notes. -/
theorem perform_entries (settings : Settings) (sink : Sink τ η) (course : Course Entry α)
    (table : τ) :
    let drawn := course.perform (Entry.act (.running settings sink)) table
    drawn.outcome = course.bare.outcome ∧
      drawn.table = sink.enter table
        ((course.bare.deeds.filterMap Deed.origin?).map (·.registration settings)) ∧
      drawn.notes.filterMap Note.event? = course.bare.deeds.map (Deed.event settings) := by
  obtain ⟨houtcome, htable⟩ :=
    makes_perform (Entry.makes_act (.running settings sink)) course table
  refine ⟨houtcome, ?_, ?_⟩
  · rw [htable, bare, filterMap, List.filterMap_filterMap, Entry.origin?_eq]
  · rw [perform_apply (Entry.outcome_act _)]
    exact Entry.events_inTurn settings sink course.deeds table

end Course

/-! ## The course of a program that spells a document out -/

open Course

theorem ActionStep.bare_course (scope : ActionScope) (position : List Nat) (verb : Verb)
    (name : String) :
    ((ActionStep.action verb.name name).course scope position).bare =
      scope.actionCourse verb name := by
  rw [ActionStep.course, bare_settled, Verb.parse_name, bare_bind, bare_ofExcept]
  exact bare_lift _

theorem ActionScope.bare_block (scope : ActionScope) (position : List Nat) (index : Nat)
    (actions : List (Verb × String)) :
    (actionsBlockCourse scope position index
      (actions.map fun (verb, name) => .action verb.name name)).bare =
        scope.actionsCourse actions := by
  induction actions generalizing index with
  | nil => rfl
  | cons first rest ih =>
    obtain ⟨verb, name⟩ := first
    rw [List.map_cons, actionsBlockCourse, ActionScope.actionsCourse, bare_bind,
      ActionStep.bare_course, ih]

mutual

theorem Declaration.bare_spelled (scope : Scope) (position : List Nat) (d : Declaration) :
    (d.spelled.course scope position).bare = d.course scope := by
  cases d with
  | route verb path target =>
    rw [Declaration.spelled, Step.course, Declaration.course, bare_settled, Verb.parse_name,
      bare_bind, bare_ofExcept]
    exact bare_lift _
  | space names block =>
    rw [Declaration.spelled, Step.course, Declaration.course, bare_settled, bare_bind, bare_lift]
    congr 1
    funext inner
    rw [bare_entered_bind, bare_spelledAll inner position 0 block]
  | resources name options block =>
    rw [Declaration.spelled, Step.course, Declaration.course, bare_settled, bare_bind,
      bare_ofExcept]
    congr 1
    funext options
    rw [bare_bind, bare_lift]
    congr 1
    funext inner
    rw [bare_entered_bind, bare_spelledAll inner position 0 block]
  | actions kind actions =>
    rw [Declaration.spelled, Step.course, Declaration.course, bare_settled, bare_bind,
      bare_ofExcept]
    congr 1
    funext inner
    rw [bare_entered_bind, inner.bare_block position 0 actions]

theorem bare_spelledAll (scope : Scope) (position : List Nat) (index : Nat)
    (block : List Declaration) :
    (blockCourse scope position index (spelledAll block)).bare = courseAll scope block := by
  cases block with
  | nil =>
    rw [spelledAll, blockCourse, courseAll]
    rfl
  | cons d rest =>
    rw [spelledAll, blockCourse, courseAll, bare_bind, d.bare_spelled scope,
      bare_spelledAll scope position (index + 1) rest]

end

/-- Reading a document at a scope and running the program that spells it out there end in the same
outcome, make the same registrations and report the same events, on every table and however far
they get. -/
theorem Definition.replay_spelled (settings : Settings) (scope : Scope) (d : Definition) :
    ∃ (outcome : Except Fault Unit) (made : List Registration) (events : List Event),
      (∀ {τ η ν : Type} (sink : Sink τ η) (report : Event → ν) (table : τ),
        d.replay ⟨settings, sink, report⟩ scope table =
          ⟨outcome, sink.enter table made, events.map report⟩) ∧
      ∀ {τ η : Type} (sink : Sink τ η) (table : τ) (position : List Nat) (index : Nat),
        let drawn := runBlock ⟨settings, sink, .event⟩ scope position index d.spelled table
        drawn.outcome = outcome ∧ drawn.table = sink.enter table made ∧
          drawn.notes.filterMap Note.event? = events := by
  let course := courseAll scope d.declarations
  refine ⟨course.outcome, (course.deeds.filterMap Deed.origin?).map (·.registration settings),
    course.deeds.map (Deed.event settings), ?_, ?_⟩
  · intro τ η ν sink report table
    rw [Definition.replay, replayAll_eq_perform, Course.perform_act, List.map_map]
    rfl
  · intro τ η sink table position index
    have hperform := perform_entries settings sink
      (blockCourse scope position index d.spelled) table
    rw [Definition.spelled, bare_spelledAll, ← runBlock_eq_perform] at hperform
    exact hperform

end RoutePlan
