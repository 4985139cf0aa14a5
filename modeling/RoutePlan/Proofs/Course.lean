import RoutePlan.Proofs.Definition.Placement

/-! # Courses

A course is what a drawing step comes to, told without settings and without a table: its
outcome and what it does, in order. A registration is told by its origin, off which every
settings reads a path. Performing a course on a table gives back the step that it is the course
of, so what is seen in a course holds of the step on every table and under all settings.
-/

namespace RoutePlan

variable {τ η ν α β δ ε : Type}

structure Course (δ α : Type) where
  outcome : Except Fault α
  deeds : List δ

namespace Course

instance : Monad (Course δ) where
  pure a := ⟨.ok a, []⟩
  bind course next :=
    match course.outcome with
    | .error f => ⟨.error f, course.deeds⟩
    | .ok a => ⟨(next a).outcome, course.deeds ++ (next a).deeds⟩

def ofExcept (check : Except Fault α) : Course δ α := ⟨check, []⟩

/-- The course that is one deed. -/
def only (d : δ) : Course δ Unit := ⟨.ok (), [d]⟩

theorem mk_error_bind (f : Fault) (deeds : List δ) (next : α → Course δ β) :
    (⟨.error f, deeds⟩ : Course δ α) >>= next = ⟨.error f, deeds⟩ := rfl

theorem mk_ok_bind (a : α) (deeds : List δ) (next : α → Course δ β) :
    (⟨.ok a, deeds⟩ : Course δ α) >>= next =
      ⟨(next a).outcome, deeds ++ (next a).deeds⟩ := rfl

instance : LawfulMonad (Course δ) :=
  LawfulMonad.mk' _
    (fun course => by
      obtain ⟨outcome, deeds⟩ := course
      cases outcome with
      | error f => rfl
      | ok a => exact congrArg (Course.mk _) (List.append_nil deeds))
    (fun _ _ => rfl)
    (fun course next last => by
      obtain ⟨outcome, deeds⟩ := course
      cases outcome with
      | error f => rfl
      | ok a =>
        simp only [mk_ok_bind]
        obtain ⟨outcome, more⟩ := next a
        cases outcome with
        | error f => rfl
        | ok b => simp only [mk_ok_bind, List.append_assoc])

theorem bind_of_ok {course : Course δ α} {a : α} (h : course.outcome = .ok a)
    (next : α → Course δ β) :
    course >>= next = ⟨(next a).outcome, course.deeds ++ (next a).deeds⟩ := by
  obtain ⟨outcome, deeds⟩ := course
  obtain rfl : outcome = .ok a := h
  rfl

theorem outcome_bind_eq_ok_iff {course : Course δ α} {next : α → Course δ β} {b : β} :
    (course >>= next).outcome = .ok b ↔
      ∃ a, course.outcome = .ok a ∧ (next a).outcome = .ok b := by
  obtain ⟨outcome, deeds⟩ := course
  cases outcome with
  | error f => simp [mk_error_bind]
  | ok a => simp [mk_ok_bind]

/-- Only what comes after an outcome that the first part has counts. -/
theorem bind_congr {course : Course δ α} {next next' : α → Course δ β}
    (h : ∀ a, course.outcome = .ok a → next a = next' a) : course >>= next = course >>= next' := by
  obtain ⟨outcome, deeds⟩ := course
  cases outcome with
  | error f => rfl
  | ok a => rw [mk_ok_bind, mk_ok_bind, h a rfl]

theorem mem_bind {d : δ} {course : Course δ α} {next : α → Course δ β} :
    d ∈ (course >>= next).deeds ↔
      d ∈ course.deeds ∨ ∃ a, course.outcome = .ok a ∧ d ∈ (next a).deeds := by
  obtain ⟨outcome, deeds⟩ := course
  cases outcome with
  | error f => simp [mk_error_bind]
  | ok a => simp [mk_ok_bind]

end Course

/-! ## Parts of a course -/

namespace Course

variable {pick? : δ → Option ε}

/-- The course with what is picked of its deeds. -/
def filterMap (pick? : δ → Option ε) (course : Course δ α) : Course ε α :=
  ⟨course.outcome, course.deeds.filterMap pick?⟩

/-- What is not picked leaves no trace. -/
theorem filterMap_only {d : δ} (h : pick? d = none) : (only d).filterMap pick? = pure () := by
  simp [filterMap, only, h, pure]

theorem filterMap_bind (course : Course δ α) (next : α → Course δ β) :
    (course >>= next).filterMap pick? =
      course.filterMap pick? >>= fun a => (next a).filterMap pick? := by
  obtain ⟨outcome, deeds⟩ := course
  cases outcome with
  | error f => rfl
  | ok a => simp only [mk_ok_bind, filterMap, List.filterMap_append]

end Course

/-! ## Performing a course -/

namespace Drawing

instance : LawfulMonad (Drawing τ ν) :=
  LawfulMonad.mk' _
    (fun step => by
      funext table
      change andThen step done table = step table
      cases h : step table with
      | mk outcome after notes => cases outcome <;> simp [andThen, done, h])
    (fun _ _ => rfl)
    (fun step next last => by
      funext table
      change andThen (andThen step next) last table =
        andThen step (fun a => andThen (next a) last) table
      cases h : (step table).outcome with
      | error f => simp [andThen, h]
      | ok a =>
        cases h' : (next a (step table).table).outcome <;> simp [andThen, h, h'])

theorem ofExcept_bind (check : Except Fault α) (next : α → Except Fault β) :
    (ofExcept (check.bind next) : Drawing τ ν β) =
      ofExcept check >>= fun a => ofExcept (next a) := by
  cases check <;> rfl

theorem bind_of_error {step : Drawing τ ν Unit} {table : τ} {f : Fault}
    (h : (step table).outcome = .error f) (next : Unit → Drawing τ ν Unit) :
    (step >>= next) table = step table := by
  change andThen step next table = step table
  cases hstep : step table with
  | mk outcome left notes =>
    obtain rfl : outcome = .error f := by rw [hstep] at h; exact h
    simp [andThen, hstep]

theorem bind_of_ok {step : Drawing τ ν α} {table : τ} {a : α}
    (h : (step table).outcome = .ok a) (next : α → Drawing τ ν β) :
    (step >>= next) table =
      ⟨(next a (step table).table).outcome, (next a (step table).table).table,
        (step table).notes ++ (next a (step table).table).notes⟩ := by
  change andThen step next table = _
  simp [andThen, h]

/-- One deed after the other. -/
def inTurn (act : δ → Drawing τ ν Unit) : List δ → Drawing τ ν Unit
  | [] => done ()
  | d :: rest => do
    act d
    inTurn act rest

theorem inTurn_append (act : δ → Drawing τ ν Unit) (first second : List δ) :
    inTurn act (first ++ second) = inTurn act first >>= fun _ => inTurn act second := by
  induction first with
  | nil => rfl
  | cons d rest ih =>
    rw [List.cons_append, inTurn, inTurn, ih, bind_assoc]

theorem inTurn_singleton (act : δ → Drawing τ ν Unit) (d : δ) : inTurn act [d] = act d :=
  bind_pure (act d)

/-- Deeds that never fail are all done. -/
theorem inTurn_outcome {act : δ → Drawing τ ν Unit}
    (hact : ∀ d table, (act d table).outcome = .ok ()) (deeds : List δ) (table : τ) :
    (inTurn act deeds table).outcome = .ok () := by
  induction deeds generalizing table with
  | nil => rfl
  | cons d rest ih => rw [inTurn, bind_of_ok (hact d table), ih]

end Drawing

namespace Course

variable {act : δ → Drawing τ ν Unit}

/-- The deeds come first; then the step ends in its outcome. -/
def perform (act : δ → Drawing τ ν Unit) (course : Course δ α) : Drawing τ ν α := do
  Drawing.inTurn act course.deeds
  Drawing.ofExcept course.outcome

theorem perform_ofExcept (check : Except Fault α) :
    (ofExcept check : Course δ α).perform act = Drawing.ofExcept check := rfl

theorem perform_only (d : δ) : (only d).perform act = act d := by
  change Drawing.inTurn act [d] >>= pure = act d
  rw [bind_pure, Drawing.inTurn_singleton]

theorem perform_apply (hact : ∀ d table, (act d table).outcome = .ok ()) (course : Course δ α)
    (table : τ) :
    course.perform act table =
      ⟨course.outcome, (Drawing.inTurn act course.deeds table).table,
        (Drawing.inTurn act course.deeds table).notes⟩ := by
  rw [perform, Drawing.bind_of_ok (Drawing.inTurn_outcome hact course.deeds table)]
  cases course.outcome with
  | ok a => simp [Drawing.ofExcept, Drawing.done]
  | error f => simp [Drawing.ofExcept, Drawing.fail]

/-- Performing goes through a course part by part. -/
theorem perform_bind (course : Course δ α) (next : α → Course δ β) :
    (course >>= next).perform act = course.perform act >>= fun a => (next a).perform act := by
  obtain ⟨outcome, deeds⟩ := course
  cases outcome with
  | error f =>
    simp only [mk_error_bind, perform, bind_assoc]
    rfl
  | ok a =>
    simp only [mk_ok_bind, perform, bind_assoc, Drawing.inTurn_append]
    rfl

end Course

/-! ## Origins and deeds -/

/-- What a registration comes from: a direct verb, a conventional action of a resource, or one
of the extra actions. -/
inductive Origin where
  | direct (scope : Scope) (verb : Verb) (path : String) (target : Target)
  | conventional (scope : ResourceScope) (action : Action)
  | extra (scope : ActionScope) (verb : Verb) (name : String)
deriving DecidableEq, Repr

namespace Origin

def verb : Origin → Verb
  | direct _ verb _ _ => verb
  | conventional _ action => action.verb
  | extra _ verb _ => verb

/-- What is declared before the local path: the scope's path, and for a direct verb what its
target puts behind that. -/
def base (settings : Settings) : Origin → String
  | direct scope _ _ target => scope.stem settings ++ target.detour
  | conventional scope _ => scope.frame.collectionPath settings
  | extra scope _ _ => scope.stem settings

def localPath (settings : Settings) : Origin → String
  | direct _ _ path _ => path
  | conventional _ action => action.suffix settings
  | extra _ _ name => name

def target : Origin → Descriptor
  | direct scope _ _ target =>
    ⟨target.controller, target.action, scope.chain ++ target.space.toList⟩
  | conventional scope action => ⟨scope.frame.controller, action.name, scope.chain⟩
  | extra scope _ name => ⟨scope.frame.controller, name, scope.chain⟩

def path (settings : Settings) (o : Origin) : String :=
  Path.join (o.base settings) (o.localPath settings)

def registration (settings : Settings) (o : Origin) : Registration :=
  ⟨o.verb, o.path settings, o.target⟩

end Origin

/-- What an operation of a scope may do. -/
inductive Deed where
  | made (origin : Origin)
  | ignored (resource : String) (verb : Verb) (path : String)
  | drawnInPlace (resource : String)
deriving DecidableEq, Repr

namespace Deed

def origin? : Deed → Option Origin
  | made o => some o
  | ignored .. | drawnInPlace _ => none

/-- What is reported of a deed. -/
def event (settings : Settings) : Deed → Event
  | made o => .registered o.verb (o.path settings) o.target
  | ignored resource verb path => .ignoredVerb resource verb path
  | drawnInPlace resource => .namespaceInPlace resource

def act (env : Surroundings τ η ν) : Deed → Drawing τ ν Unit
  | made o => do
    Drawing.note (env.report (.registered o.verb (o.path env.settings) o.target))
    Drawing.update fun table =>
      env.sink.add table o.verb (o.path env.settings) (env.sink.resolve o.target table)
  | ignored resource verb path => Drawing.note (env.report (.ignoredVerb resource verb path))
  | drawnInPlace resource => Drawing.note (env.report (.namespaceInPlace resource))

end Deed

/-! ## Courses of the operations -/

namespace Scope

def routeCourse (scope : Scope) (verb : Verb) (path : String) (spec : TargetSpec) :
    Course Deed Unit := do
  let target ← Course.ofExcept spec.resolve
  match scope.frame? with
  | some frame => Course.only (.ignored frame.name verb path)
  | none => Course.only (.made (.direct scope verb path target))

def spaceCourse (scope : Scope) (names : List String) : Course Deed Scope :=
  match scope.frame? with
  | some frame => do
    Course.only (.drawnInPlace frame.name)
    return scope
  | none =>
    if names.isEmpty then Course.ofExcept (.error (.invalidName .space ""))
    else do
      Course.ofExcept (checkNames .space names)
      return .space (scope.chain ++ names)

/-- The deeds by which a resource expands to its conventional routes. -/
def expansion (scope : ResourceScope) (actions : List Action) : List Deed :=
  actions.map fun action => .made (.conventional scope action)

theorem origins_expansion (scope : ResourceScope) (actions : List Action) :
    (expansion scope actions).filterMap Deed.origin? = actions.map (.conventional scope) := by
  rw [expansion, List.filterMap_map, ← List.filterMap_eq_map]
  rfl

def resourceCourse (scope : Scope) (name : String) (options : ResourceOptions) :
    Course Deed Scope := do
  let inner ← Course.ofExcept (scope.declareResource name options)
  ⟨.ok (.resource inner), expansion inner inner.frame.resource.allowed⟩

end Scope

namespace ActionScope

def actionCourse (scope : ActionScope) (verb : Verb) (name : String) : Course Deed Unit := do
  Course.ofExcept (checkName scope.kind.construct name)
  Course.only (.made (.extra scope verb name))

def actionsCourse (scope : ActionScope) : List (Verb × String) → Course Deed Unit
  | [] => pure ()
  | (verb, name) :: rest => do
    scope.actionCourse verb name
    scope.actionsCourse rest

end ActionScope

section Operations

variable (env : Surroundings τ η ν)

theorem register_eq_act (chain : List String) (stem : String) (verb : Verb) (path : String)
    (target : Target) (o : Origin) (hverb : o.verb = verb)
    (hpath : o.path env.settings = Path.join (target.extend stem) path)
    (htarget : o.target = target.describe chain) :
    register env chain stem verb path target = (Deed.made o).act env := by
  rw [Deed.act, hverb, hpath, htarget]
  rfl

theorem Scope.route_eq_perform (scope : Scope) (verb : Verb) (path : String)
    (spec : TargetSpec) :
    scope.route env verb path spec = (scope.routeCourse verb path spec).perform (Deed.act env) := by
  rw [Scope.routeCourse, Course.perform_bind, Course.perform_ofExcept, Scope.route]
  congr 1
  funext target
  cases scope.frame? with
  | some frame => exact (Course.perform_only _).symm
  | none =>
    rw [Course.perform_only]
    apply register_eq_act
    · rfl
    · rw [Target.extend_eq]
      rfl
    · rfl

theorem Scope.enterSpace_eq_perform (scope : Scope) (names : List String) :
    scope.enterSpace env names = (scope.spaceCourse names).perform (Deed.act env) := by
  rw [Scope.spaceCourse, Scope.enterSpace]
  cases scope.frame? with
  | some frame => rw [Course.perform_bind, Course.perform_only]; rfl
  | none =>
    cases names with
    | nil => rfl
    | cons first rest => rw [if_neg (by simp), if_neg (by simp), Course.perform_bind]; rfl

theorem Scope.expand_eq_inTurn (scope : ResourceScope) (actions : List Action) :
    Scope.expand env scope actions =
      Drawing.inTurn (Deed.act env) (Scope.expansion scope actions) := by
  induction actions with
  | nil => rfl
  | cons action rest ih =>
    rw [Scope.expand, Scope.expansion, List.map_cons, Drawing.inTurn, ih, Scope.expansion]
    congr 1
    apply register_eq_act
    · rfl
    · rfl
    · simp [Origin.target, Target.describe]

theorem Scope.enterResource_eq_perform (scope : Scope) (name : String)
    (options : ResourceOptions) :
    scope.enterResource env name options =
      (scope.resourceCourse name options).perform (Deed.act env) := by
  rw [Scope.resourceCourse, Scope.enterResource, Course.perform_bind, Course.perform_ofExcept]
  congr 1
  funext inner
  rw [Scope.expand_eq_inTurn]
  rfl

theorem ActionScope.action_eq_perform (scope : ActionScope) (verb : Verb) (name : String) :
    scope.action env verb name = (scope.actionCourse verb name).perform (Deed.act env) := by
  rw [ActionScope.actionCourse, ActionScope.action, Course.perform_bind, Course.perform_ofExcept]
  congr 1
  funext u
  rw [Course.perform_only]
  apply register_eq_act
  · rfl
  · rfl
  · simp [Origin.target, Target.describe]

theorem ActionScope.actions_eq_perform (scope : ActionScope) (actions : List (Verb × String)) :
    scope.actions env actions = (scope.actionsCourse actions).perform (Deed.act env) := by
  induction actions with
  | nil => rfl
  | cons first rest ih =>
    obtain ⟨verb, name⟩ := first
    rw [ActionScope.actions, ActionScope.actionsCourse, Course.perform_bind, ih,
      ActionScope.action_eq_perform]

end Operations

/-! ## Courses of definitions -/

mutual

def Declaration.course (scope : Scope) : Declaration → Course Deed Unit
  | .route verb path target => scope.routeCourse verb path target
  | .space names block => do
    let inner ← scope.spaceCourse names
    courseAll inner block
  | .resources name options block => do
    let options ← Course.ofExcept options.resolve
    let inner ← scope.resourceCourse name options
    courseAll inner block
  | .actions kind actions => do
    let inner ← Course.ofExcept (scope.enterActions kind)
    inner.actionsCourse actions

def courseAll (scope : Scope) : List Declaration → Course Deed Unit
  | [] => pure ()
  | declaration :: rest => do
    declaration.course scope
    courseAll scope rest

end

mutual

theorem Declaration.replay_eq_perform (env : Surroundings τ η ν) (scope : Scope)
    (declaration : Declaration) :
    declaration.replay env scope = (declaration.course scope).perform (Deed.act env) := by
  cases declaration with
  | route verb path target =>
    rw [Declaration.replay, Declaration.course, Scope.route_resolved, Scope.route_eq_perform]
  | space names block =>
    rw [Declaration.replay, Declaration.course, Course.perform_bind, Scope.enterSpace_eq_perform]
    congr 1
    funext inner
    exact replayAll_eq_perform env inner block
  | resources name options block =>
    rw [Declaration.replay, Declaration.course, Course.perform_bind, Course.perform_ofExcept]
    congr 1
    funext options
    rw [Course.perform_bind, Scope.enterResource_eq_perform]
    congr 1
    funext inner
    exact replayAll_eq_perform env inner block
  | actions kind actions =>
    rw [Declaration.replay, Declaration.course, Course.perform_bind, Course.perform_ofExcept]
    congr 1
    funext inner
    exact inner.actions_eq_perform env actions

theorem replayAll_eq_perform (env : Surroundings τ η ν) (scope : Scope)
    (block : List Declaration) :
    replayAll env scope block = (courseAll scope block).perform (Deed.act env) := by
  cases block with
  | nil =>
    rw [replayAll, courseAll]
    rfl
  | cons declaration rest =>
    rw [replayAll, courseAll, Course.perform_bind, declaration.replay_eq_perform env scope,
      replayAll_eq_perform env scope rest]

end

/-! ## What a course makes -/

namespace Course

open Drawing (Makes inTurn)

variable {sink : Sink τ η} {settings : Settings} {act : δ → Drawing τ ν Unit}
  {origin? : δ → Option Origin}

theorem makes_inTurn (hact : ∀ d, Makes sink (act d) (.ok ())
      ((origin? d).toList.map (·.registration settings))) (deeds : List δ) :
    Makes sink (inTurn act deeds) (.ok ())
      ((deeds.filterMap origin?).map (·.registration settings)) := by
  induction deeds with
  | nil => exact Makes.done ()
  | cons d rest ih =>
    have hboth : Makes sink (act d >>= fun _ => inTurn act rest) (.ok ()) _ :=
      Makes.bind_ok (hact d) ih
    cases ho : origin? d with
    | none => simpa [inTurn, ho] using hboth
    | some o => simpa [inTurn, ho] using hboth

/-- Performing ends in the outcome of the course and registers the origins of its deeds, where
each deed by itself does no more. -/
theorem makes_perform (hact : ∀ d, Makes sink (act d) (.ok ())
      ((origin? d).toList.map (·.registration settings))) (course : Course δ α) :
    Makes sink (course.perform act) course.outcome
      ((course.deeds.filterMap origin?).map (·.registration settings)) := by
  have hend : Makes sink (course.perform act) course.outcome _ :=
    Makes.bind_ok (makes_inTurn hact course.deeds) (Makes.ofExcept course.outcome)
  rwa [List.append_nil] at hend

end Course

theorem Deed.makes_act (env : Surroundings τ η ν) (d : Deed) :
    Drawing.Makes env.sink (d.act env) (.ok ())
      (d.origin?.toList.map (·.registration env.settings)) := by
  cases d with
  | made o => exact fun _ => ⟨rfl, rfl⟩
  | ignored resource verb path => exact Drawing.Makes.note _
  | drawnInPlace resource => exact Drawing.Makes.note _

/-! ## What a course reports -/

theorem Deed.outcome_act (env : Surroundings τ η ν) (d : Deed) (table : τ) :
    (d.act env table).outcome = .ok () :=
  (d.makes_act env table).1

theorem Deed.notes_act (env : Surroundings τ η ν) (d : Deed) (table : τ) :
    (d.act env table).notes = [env.report (d.event env.settings)] := by
  cases d <;> rfl

theorem Deed.notes_inTurn (env : Surroundings τ η ν) (deeds : List Deed) (table : τ) :
    (Drawing.inTurn (Deed.act env) deeds table).notes =
      deeds.map fun d => env.report (d.event env.settings) := by
  induction deeds generalizing table with
  | nil => rfl
  | cons d rest ih =>
    rw [Drawing.inTurn, Drawing.bind_of_ok (d.outcome_act env table), ih, Deed.notes_act]
    rfl

/-- A course that is performed ends in its outcome, enters the registrations of its deeds, and
reports each deed once. -/
theorem Course.perform_act (env : Surroundings τ η ν) (course : Course Deed α) (table : τ) :
    course.perform (Deed.act env) table =
      ⟨course.outcome,
        env.sink.enter table
          ((course.deeds.filterMap Deed.origin?).map (·.registration env.settings)),
        course.deeds.map fun d => env.report (d.event env.settings)⟩ := by
  have htable := (makes_inTurn (Deed.makes_act env) course.deeds table).2
  rw [perform_apply (Deed.outcome_act env), Deed.notes_inTurn, htable]

end RoutePlan
