import RoutePlan.Proofs.Program.Spelled

/-! # Calls of direct verbs

Which direct verbs a program calls, and in which scopes, follows from where its declarations
succeed. A call with a well-formed target registers one route, or is ignored inside a resource;
nothing else that a program does is a deed of that kind.
-/

namespace RoutePlan

open Course

variable {α β δ ε : Type}

namespace Course

/-- Of a course with nothing to pick only the outcome is left. -/
theorem filterMap_eq_ofExcept {pick? : δ → Option ε} {course : Course δ α}
    (h : ∀ d ∈ course.deeds, pick? d = none) :
    course.filterMap pick? = ofExcept course.outcome :=
  congrArg (Course.mk course.outcome) (List.filterMap_eq_nil_iff.mpr h)

theorem ofExcept_outcome_bind (course : Course δ α) (next : α → Course δ β) :
    (ofExcept (course >>= next).outcome : Course ε β) =
      ofExcept course.outcome >>= fun a => ofExcept (next a).outcome := by
  obtain ⟨outcome, deeds⟩ := course
  cases outcome <;> rfl

theorem bare_excused (course : Course Entry Unit) :
    course.excused.bare = ⟨.ok (), course.bare.deeds⟩ := rfl

end Course

/-- A direct verb that is called in a scope. -/
structure DirectCall where
  scope : Scope
  verb : Verb
  path : String
  spec : TargetSpec

namespace DirectCall

/-- The deed that comes of the call, unless its target is malformed. -/
def deed? (c : DirectCall) : Option Deed :=
  match c.spec.resolve with
  | .error _ => none
  | .ok target =>
    match c.scope.frame? with
    | some frame => some (.ignored frame.name c.verb c.path)
    | none => some (.made (.direct c.scope c.verb c.path target))

/-- A malformed target ends the block around the call. -/
def course (c : DirectCall) : Course DirectCall Unit := ⟨c.spec.resolve.map fun _ => (), [c]⟩

end DirectCall

/-- The deeds that come of direct verbs. -/
def Deed.direct? : Deed → Option Deed
  | .made (.direct scope verb path target) => some (.made (.direct scope verb path target))
  | .ignored resource verb path => some (.ignored resource verb path)
  | .made (.conventional ..) | .made (.extra ..) | .drawnInPlace _ => none

/-! ## The calls of a plan -/

mutual

def Declaration.calls (scope : Scope) : Declaration → Course DirectCall Unit
  | .route verb path target => (DirectCall.mk scope verb path target).course
  | .space names block => do
    let inner ← Course.ofExcept (scope.spaceCourse names).outcome
    callsAll inner block
  | .resources name options block => do
    let options ← Course.ofExcept options.resolve
    let inner ← Course.ofExcept (scope.resourceCourse name options).outcome
    callsAll inner block
  | .actions kind actions => do
    let inner ← Course.ofExcept (scope.enterActions kind)
    Course.ofExcept (inner.actionsCourse actions).outcome

def callsAll (scope : Scope) : List Declaration → Course DirectCall Unit
  | [] => pure ()
  | declaration :: rest => do
    declaration.calls scope
    callsAll scope rest

end

def ActionStep.outcome (scope : ActionScope) : ActionStep → Except Fault Unit
  | .action verb name => do
    let _ ← Verb.parse verb
    checkName scope.kind.construct name
  | .look | .attempt _ => .ok ()

def ActionScope.blockOutcome (scope : ActionScope) : List ActionStep → Except Fault Unit
  | [] => .ok ()
  | step :: rest => do
    step.outcome scope
    scope.blockOutcome rest

mutual

/-- The direct verbs that the step calls. Only the attempt goes on after a fault. -/
def Step.calls (scope : Scope) : Step → Course DirectCall Unit
  | .route verb path target => do
    let verb ← Course.ofExcept (Verb.parse verb)
    (DirectCall.mk scope verb path target).course
  | .space names block => do
    let inner ← Course.ofExcept (scope.spaceCourse names).outcome
    blockCalls inner block
  | .resources name options block => do
    let options ← Course.ofExcept options.resolve
    let inner ← Course.ofExcept (scope.resourceCourse name options).outcome
    blockCalls inner block
  | .actions kind block => do
    let inner ← Course.ofExcept (scope.enterActions kind)
    Course.ofExcept (inner.blockOutcome block)
  | .document definition => callsAll scope definition.declarations
  | .look => pure ()
  | .attempt step => ⟨.ok (), (step.calls scope).deeds⟩

def blockCalls (scope : Scope) : List Step → Course DirectCall Unit
  | [] => pure ()
  | step :: rest => do
    step.calls scope
    blockCalls scope rest

end

/-! ## What comes of the calls -/

theorem Scope.routeCourse_direct (scope : Scope) (verb : Verb) (path : String)
    (spec : TargetSpec) :
    (scope.routeCourse verb path spec).filterMap Deed.direct? =
      (DirectCall.mk scope verb path spec).course.filterMap DirectCall.deed? := by
  cases hspec : spec.resolve with
  | error f =>
    simp only [routeCourse, DirectCall.course, filterMap, List.filterMap, DirectCall.deed?, hspec]
    rfl
  | ok target =>
    cases hframe : scope.frame? <;>
    · simp only [routeCourse, DirectCall.course, filterMap, List.filterMap, DirectCall.deed?,
        hspec, hframe]
      rfl

theorem Scope.spaceCourse_direct (scope : Scope) (names : List String) :
    (scope.spaceCourse names).filterMap Deed.direct? =
      Course.ofExcept (scope.spaceCourse names).outcome := by
  rw [spaceCourse]
  split
  · rfl
  · split
    · rfl
    · cases checkNames .space names <;> rfl

theorem Scope.resourceCourse_direct (scope : Scope) (name : String) (options : ResourceOptions) :
    (scope.resourceCourse name options).filterMap Deed.direct? =
      Course.ofExcept (scope.resourceCourse name options).outcome := by
  refine filterMap_eq_ofExcept fun d hd => ?_
  rw [resourceCourse, mem_bind] at hd
  obtain hd | ⟨frame, -, hd⟩ := hd
  · exact absurd hd List.not_mem_nil
  · obtain ⟨action, -, rfl⟩ := List.mem_map.mp hd
    rfl

namespace ActionScope

theorem actionCourse_direct (scope : ActionScope) (verb : Verb) (name : String) :
    (scope.actionCourse verb name).filterMap Deed.direct? =
      Course.ofExcept (checkName scope.kind.construct name) := by
  rw [actionCourse]
  cases checkName scope.kind.construct name <;> rfl

theorem actionsCourse_direct (scope : ActionScope) (actions : List (Verb × String)) :
    (scope.actionsCourse actions).filterMap Deed.direct? =
      Course.ofExcept (scope.actionsCourse actions).outcome := by
  induction actions with
  | nil => rfl
  | cons first rest ih =>
    obtain ⟨verb, name⟩ := first
    have houtcome : (scope.actionCourse verb name).outcome
        = checkName scope.kind.construct name := by
      rw [actionCourse]
      cases checkName scope.kind.construct name <;> rfl
    rw [actionsCourse, filterMap_bind, actionCourse_direct, ih, ofExcept_outcome_bind, houtcome]

end ActionScope

theorem ActionStep.course_direct (scope : ActionScope) (position : List Nat) (step : ActionStep) :
    (step.course scope position).bare.filterMap Deed.direct? =
      Course.ofExcept (step.outcome scope) := by
  induction step with
  | action verb name =>
    rw [ActionStep.course, bare_settled, bare_bind, bare_ofExcept, filterMap_bind,
      ActionStep.outcome]
    cases Verb.parse verb with
    | error f => rfl
    | ok verb =>
      change (scope.actionCourse verb name).lift.bare.filterMap Deed.direct? = _
      rw [bare_lift, ActionScope.actionCourse_direct]
      rfl
  | look => rfl
  | attempt step ih =>
    rw [ActionStep.course, bare_excused]
    exact congrArg (Course.mk (.ok ())) (congrArg Course.deeds ih)

theorem actionsBlockCourse_direct (scope : ActionScope) (position : List Nat) (index : Nat)
    (block : List ActionStep) :
    (actionsBlockCourse scope position index block).bare.filterMap Deed.direct? =
      Course.ofExcept (scope.blockOutcome block) := by
  induction block generalizing index with
  | nil => rfl
  | cons step rest ih =>
    rw [actionsBlockCourse, bare_bind, filterMap_bind, step.course_direct,
      ActionScope.blockOutcome]
    simp only [ih]
    cases step.outcome scope <;> rfl

mutual

theorem Declaration.course_direct (scope : Scope) (declaration : Declaration) :
    (declaration.course scope).filterMap Deed.direct? =
      (declaration.calls scope).filterMap DirectCall.deed? := by
  cases declaration with
  | route verb path target =>
    rw [Declaration.course, Declaration.calls, Scope.routeCourse_direct]
  | space names block =>
    rw [Declaration.course, Declaration.calls, filterMap_bind, filterMap_bind,
      Scope.spaceCourse_direct]
    congr 1
    funext inner
    exact courseAll_direct inner block
  | resources name options block =>
    rw [Declaration.course, Declaration.calls, filterMap_bind, filterMap_bind]
    congr 1
    funext options
    rw [filterMap_bind, filterMap_bind, Scope.resourceCourse_direct]
    congr 1
    funext inner
    exact courseAll_direct inner block
  | actions kind actions =>
    rw [Declaration.course, Declaration.calls, filterMap_bind, filterMap_bind]
    congr 1
    funext inner
    exact inner.actionsCourse_direct actions

theorem courseAll_direct (scope : Scope) (block : List Declaration) :
    (courseAll scope block).filterMap Deed.direct? =
      (callsAll scope block).filterMap DirectCall.deed? := by
  cases block with
  | nil =>
    rw [courseAll, callsAll]
    rfl
  | cons declaration rest =>
    rw [courseAll, callsAll, filterMap_bind, filterMap_bind, declaration.course_direct scope,
      courseAll_direct scope rest]

end

mutual

theorem Step.course_direct (scope : Scope) (position : List Nat) (step : Step) :
    (step.course scope position).bare.filterMap Deed.direct? =
      (step.calls scope).filterMap DirectCall.deed? := by
  cases step with
  | route verb path target =>
    rw [Step.course, Step.calls, bare_settled, bare_bind, filterMap_bind, filterMap_bind]
    congr 1
    funext verb
    rw [bare_lift, Scope.routeCourse_direct]
  | space names block =>
    rw [Step.course, Step.calls, bare_settled, bare_bind, bare_lift, filterMap_bind,
      filterMap_bind, Scope.spaceCourse_direct]
    congr 1
    funext inner
    rw [bare_entered_bind]
    exact blockCourse_direct inner position 0 block
  | resources name options block =>
    rw [Step.course, Step.calls, bare_settled, bare_bind, filterMap_bind, filterMap_bind]
    congr 1
    funext options
    rw [bare_bind, bare_lift, filterMap_bind, filterMap_bind, Scope.resourceCourse_direct]
    congr 1
    funext inner
    rw [bare_entered_bind]
    exact blockCourse_direct inner position 0 block
  | actions kind block =>
    rw [Step.course, Step.calls, bare_settled, bare_bind, filterMap_bind, filterMap_bind]
    congr 1
    funext inner
    rw [bare_entered_bind]
    exact actionsBlockCourse_direct inner position 0 block
  | document definition =>
    rw [Step.course, Step.calls, bare_settled, bare_lift, courseAll_direct]
  | look =>
    rw [Step.course, Step.calls, bare_settled]
    rfl
  | attempt step =>
    rw [Step.course, Step.calls, bare_excused]
    have hstep := step.course_direct scope position
    exact congrArg (Course.mk (.ok ())) (congrArg Course.deeds hstep)

/-- What a block does by direct verbs is what comes of the calls in it, and it ends as the
calls do. -/
theorem blockCourse_direct (scope : Scope) (position : List Nat) (index : Nat)
    (block : List Step) :
    (blockCourse scope position index block).bare.filterMap Deed.direct? =
      (blockCalls scope block).filterMap DirectCall.deed? := by
  cases block with
  | nil =>
    rw [blockCourse, blockCalls]
    rfl
  | cons step rest =>
    rw [blockCourse, blockCalls, bare_bind, filterMap_bind, filterMap_bind,
      step.course_direct scope, blockCourse_direct scope position (index + 1) rest]

end

end RoutePlan
