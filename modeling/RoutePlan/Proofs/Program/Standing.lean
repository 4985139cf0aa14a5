import RoutePlan.Proofs.Program.Course
import RoutePlan.Proofs.Scope

/-! # Where entries stand

Every entry of a course is made at a scope: a place is entered there, or a registration comes
from an operation of that scope. A condition on scopes that is handed on to every scope that
opens holds at all of them, however deep they lie and whatever faults are caught on the way.
-/

namespace RoutePlan

variable {α β δ : Type} {S : Scope → Prop} {outer inner scope : Scope}

/-! ## Standing at a scope -/

def Place.At (scope : Scope) : Place → Prop
  | .scope s => s = scope
  | .actions a => scope = .resource a.toResourceScope

/-- Every origin is of one scope, and what it brings along has passed the scope's checks. -/
def Origin.At (scope : Scope) : Origin → Prop
  | .direct s _ _ target => s = scope ∧ scope.frame? = none ∧ ∀ s ∈ target.space, IsSegment s
  | .conventional s _ => scope = .resource s
  | .extra a _ name => scope = .resource a.toResourceScope ∧ IsSegment name

def Deed.At (scope : Scope) : Deed → Prop
  | .made o => o.At scope
  | .ignored .. | .drawnInPlace _ => True

def Entry.At (scope : Scope) : Entry → Prop
  | .deed d => d.At scope
  | .entered _ place => place.At scope
  | .finished .. => True

/-- A condition that a scope hands on to every scope it opens. -/
structure Inherited (S : Scope → Prop) : Prop where
  space : ∀ {outer inner : Scope} {names : List String}, S outer →
    (outer.spaceCourse names).outcome = .ok inner → S inner
  resource : ∀ {outer inner : Scope} {name : String} {options : ResourceOptions}, S outer →
    (outer.resourceCourse name options).outcome = .ok inner → S inner

theorem inherited_isSound : Inherited Scope.IsSound where
  space h hopen := Scope.isSound_space h hopen
  resource {_ _ name options} h hopen := by
    obtain ⟨resource, hdeclare, rfl⟩ :=
      (Scope.resourceCourse_outcome_eq_ok_iff name options).mp hopen
    exact Scope.isSound_declareResource h hdeclare

/-! ## Courses all of whose deeds are such -/

namespace Course

def All (P : δ → Prop) (course : Course δ α) : Prop := ∀ d ∈ course.deeds, P d

variable {P : δ → Prop}

theorem all_ofExcept (check : Except Fault α) : (ofExcept check : Course δ α).All P :=
  fun _ h => absurd h List.not_mem_nil

theorem all_pure (a : α) : (pure a : Course δ α).All P := fun _ h => absurd h List.not_mem_nil

theorem all_only {d : δ} (h : P d) : (only d).All P := by
  intro e he
  rwa [List.mem_singleton.mp he]

/-- What comes after a part plays a role only where the part has an outcome to go on with. -/
theorem All.bind {course : Course δ α} {next : α → Course δ β} (h : course.All P)
    (hnext : ∀ a, course.outcome = .ok a → (next a).All P) : (course >>= next).All P := by
  obtain ⟨outcome, deeds⟩ := course
  cases outcome with
  | error f => exact h
  | ok a =>
    intro d hd
    rcases List.mem_append.mp hd with hd | hd
    · exact h d hd
    · exact hnext a rfl d hd

theorem All.lift {P : Entry → Prop} {course : Course Deed α} (h : course.All fun d => P (.deed d)) :
    course.lift.All P := by
  intro e he
  obtain ⟨d, hd, rfl⟩ := List.mem_map.mp he
  exact h d hd

theorem All.settled {P : Entry → Prop} {course : Course Entry Unit} {position : List Nat}
    (h : course.All P) (hlast : P (.finished position course.outcome)) :
    (course.settled position).All P := by
  intro e he
  rcases List.mem_append.mp he with he | he
  · exact h e he
  · rwa [List.mem_singleton.mp he]

end Course

/-! ## Operations and definitions -/

open Course

/-- Made at a scope of the condition. -/
def Deed.Stands (S : Scope → Prop) (d : Deed) : Prop := ∃ scope, S scope ∧ d.At scope

theorem TargetSpec.isSegment_of_resolve {spec : TargetSpec} {target : Target}
    (h : spec.resolve = .ok target) : ∀ s ∈ target.space, IsSegment s := by
  rw [TargetSpec.resolve_eq] at h
  cases spec with
  | shorthand written =>
    cases hf : TargetSpec.faults (.shorthand written) with
    | cons f rest => simp [hf, Except.map] at h
    | nil =>
      obtain rfl : TargetSpec.reading (.shorthand written) = target := by
        simpa [hf, Except.map] using h
      exact fun s hs => by cases hs
  | full t =>
    cases hf : TargetSpec.faults (.full t) with
    | cons f rest => simp [hf, Except.map] at h
    | nil =>
      obtain rfl : t = target := by simpa [hf, Except.map, TargetSpec.reading] using h
      intro s hs
      have hspace := (List.append_eq_nil_iff.mp hf).2
      exact (nameFaults_eq_nil_iff _ _).mp hspace s (by simpa using hs)

theorem Scope.all_routeCourse (h : S scope) (verb : Verb) (path : String) (spec : TargetSpec) :
    (scope.routeCourse verb path spec).All (Deed.Stands S) := by
  refine (all_ofExcept _).bind fun target hresolve => ?_
  cases hf : scope.frame? with
  | some frame => exact all_only ⟨scope, h, trivial⟩
  | none =>
    exact all_only ⟨scope, h, rfl, hf, TargetSpec.isSegment_of_resolve hresolve⟩

theorem Scope.all_spaceCourse (h : S scope) (names : List String) :
    (scope.spaceCourse names).All (Deed.Stands S) := by
  unfold Scope.spaceCourse
  cases scope.frame? with
  | some frame =>
    have hfirst : (only (Deed.drawnInPlace frame.name)).All (Deed.Stands S) :=
      all_only ⟨scope, h, trivial⟩
    exact hfirst.bind fun _ _ => all_pure _
  | none =>
    cases names with
    | nil => exact all_ofExcept _
    | cons first rest => exact (all_ofExcept _).bind fun _ _ => all_pure _

theorem Scope.all_resourceCourse (hS : Inherited S) (h : S scope) (name : String)
    (options : ResourceOptions) : (scope.resourceCourse name options).All (Deed.Stands S) := by
  refine (all_ofExcept _).bind fun inner hdeclare d hd => ?_
  obtain ⟨action, -, rfl⟩ := List.mem_map.mp hd
  have hopen : (scope.resourceCourse name options).outcome = .ok (.resource inner) :=
    (Scope.resourceCourse_outcome_eq_ok_iff name options).mpr ⟨inner, hdeclare, rfl⟩
  exact ⟨.resource inner, hS.resource h hopen, rfl⟩

theorem ActionScope.all_actionCourse {a : ActionScope} (h : S (.resource a.toResourceScope))
    (verb : Verb) (name : String) : (a.actionCourse verb name).All (Deed.Stands S) := by
  refine (all_ofExcept _).bind fun u hcheck => all_only ⟨_, h, rfl, ?_⟩
  exact (isName_iff name).mp ((checkName_eq_ok_iff _ _).mp hcheck)

theorem ActionScope.all_actionsCourse {a : ActionScope} (h : S (.resource a.toResourceScope))
    (actions : List (Verb × String)) : (a.actionsCourse actions).All (Deed.Stands S) := by
  induction actions with
  | nil => exact all_pure ()
  | cons first rest ih => exact (all_actionCourse h first.1 first.2).bind fun _ _ => ih

theorem Scope.of_enterActions {kind : ActionKind} {a : ActionScope} (h : S scope)
    (henter : scope.enterActions kind = .ok a) : S (.resource a.toResourceScope) := by
  obtain ⟨rfl, -⟩ := (Scope.enterActions_eq_ok_iff kind a).mp henter
  exact h

mutual

theorem Declaration.all_course (hS : Inherited S) {scope : Scope} (h : S scope)
    (declaration : Declaration) : (declaration.course scope).All (Deed.Stands S) := by
  -- The condition is the invariant; a block that opens hands it on to its own scope.
  cases declaration with
  | route verb path target =>
    rw [Declaration.course]
    exact Scope.all_routeCourse h verb path target
  | space names block =>
    rw [Declaration.course]
    refine (Scope.all_spaceCourse h names).bind fun inner hopen => ?_
    exact all_courseAll hS (hS.space h hopen) block
  | resources name options block =>
    rw [Declaration.course]
    refine (all_ofExcept _).bind fun options _ => ?_
    refine (Scope.all_resourceCourse hS h name options).bind fun inner hopen => ?_
    exact all_courseAll hS (hS.resource h hopen) block
  | actions kind actions =>
    rw [Declaration.course]
    refine (all_ofExcept _).bind fun inner henter => ?_
    exact ActionScope.all_actionsCourse (Scope.of_enterActions h henter) actions

theorem all_courseAll (hS : Inherited S) {scope : Scope} (h : S scope)
    (block : List Declaration) : (courseAll scope block).All (Deed.Stands S) := by
  cases block with
  | nil =>
    rw [courseAll]
    exact all_pure ()
  | cons declaration rest =>
    rw [courseAll]
    exact (declaration.all_course hS h).bind fun _ _ => all_courseAll hS h rest

end

/-! ## Programs -/

def Entry.Stands (S : Scope → Prop) (e : Entry) : Prop := ∃ scope, S scope ∧ e.At scope

theorem Course.All.lift_stands {course : Course Deed α} (h : course.All (Deed.Stands S)) :
    course.lift.All (Entry.Stands S) :=
  All.lift h

/-- An outcome is noted at every scope, so at one of the condition. -/
theorem Course.All.settled_stands {course : Course Entry Unit} (position : List Nat)
    (h : course.All (Entry.Stands S)) (hscope : S scope) :
    (course.settled position).All (Entry.Stands S) :=
  h.settled ⟨scope, hscope, trivial⟩

/-- A block starts with an entry of its place. -/
theorem Course.All.after_entered {course : Course Entry Unit} {place : Place}
    (position : List Nat) (h : course.All (Entry.Stands S)) (hscope : S scope)
    (hplace : place.At scope) :
    (only (Entry.entered position place) >>= fun _ => course).All (Entry.Stands S) :=
  All.bind (all_only ⟨scope, hscope, hplace⟩) fun _ _ => h

theorem ActionStep.all_course {a : ActionScope} (h : S (.resource a.toResourceScope))
    (position : List Nat) (step : ActionStep) : (step.course a position).All (Entry.Stands S) := by
  induction step with
  | action verb name =>
    rw [ActionStep.course]
    refine All.settled_stands position ?_ h
    exact (all_ofExcept _).bind fun verb _ => (a.all_actionCourse h verb name).lift_stands
  | look =>
    rw [ActionStep.course]
    exact All.settled_stands position (all_only ⟨_, h, rfl⟩) h
  | attempt step ih =>
    rw [ActionStep.course]
    exact ih

theorem all_actionsBlockCourse {a : ActionScope} (h : S (.resource a.toResourceScope))
    (position : List Nat) (index : Nat) (block : List ActionStep) :
    (actionsBlockCourse a position index block).All (Entry.Stands S) := by
  induction block generalizing index with
  | nil => exact all_pure ()
  | cons step rest ih => exact (step.all_course h _).bind fun _ _ => ih (index + 1)

mutual

theorem Step.all_course (hS : Inherited S) {scope : Scope} (h : S scope) (position : List Nat)
    (step : Step) : (step.course scope position).All (Entry.Stands S) := by
  cases step with
  | route verb path target =>
    rw [Step.course]
    refine All.settled_stands position ?_ h
    exact (all_ofExcept _).bind fun verb _ => (Scope.all_routeCourse h verb path target).lift_stands
  | space names block =>
    rw [Step.course]
    refine All.settled_stands position ?_ h
    refine (Scope.all_spaceCourse h names).lift_stands.bind fun inner hopen => ?_
    have hinner : S inner := hS.space h hopen
    exact (all_blockCourse hS hinner position 0 block).after_entered position hinner rfl
  | resources name options block =>
    rw [Step.course]
    refine All.settled_stands position ?_ h
    refine (all_ofExcept _).bind fun options _ => ?_
    refine (Scope.all_resourceCourse hS h name options).lift_stands.bind fun inner hopen => ?_
    have hinner : S inner := hS.resource h hopen
    exact (all_blockCourse hS hinner position 0 block).after_entered position hinner rfl
  | actions kind block =>
    rw [Step.course]
    refine All.settled_stands position ?_ h
    refine (all_ofExcept _).bind fun inner henter => ?_
    have hinner : S (.resource inner.toResourceScope) := Scope.of_enterActions h henter
    exact (all_actionsBlockCourse hinner position 0 block).after_entered position hinner rfl
  | document definition =>
    rw [Step.course]
    exact All.settled_stands position (all_courseAll hS h definition.declarations).lift_stands h
  | look =>
    rw [Step.course]
    exact All.settled_stands position (all_only ⟨scope, h, rfl⟩) h
  | attempt step =>
    rw [Step.course]
    exact step.all_course hS h position

theorem all_blockCourse (hS : Inherited S) {scope : Scope} (h : S scope) (position : List Nat)
    (index : Nat) (block : List Step) :
    (blockCourse scope position index block).All (Entry.Stands S) := by
  cases block with
  | nil =>
    rw [blockCourse]
    exact all_pure ()
  | cons step rest =>
    rw [blockCourse]
    exact (step.all_course hS h _).bind fun _ _ => all_blockCourse hS h position (index + 1) rest

end

end RoutePlan
