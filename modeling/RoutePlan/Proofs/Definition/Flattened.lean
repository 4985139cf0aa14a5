import RoutePlan.Proofs.Definition.Siblings
import RoutePlan.Proofs.Definition.WellFormed
import RoutePlan.Proofs.Scope

/-! # Flattened resources

Inside a resource a namespace adds nothing, whatever its names are, and a direct verb declares
nothing, though its target is checked. So the blocks of resources can be flattened: a namespace
gives way to its own entries, and a direct verb is left out unless its target has a fault. The
definition that remains ends as the first one does and makes the same registrations in the same
order, also where it ends with a fault.
-/

namespace RoutePlan

open Course

variable {τ η ν : Type} {scope : Scope} {settings : Settings}

instance (spec : TargetSpec) : Decidable spec.WellFormed :=
  decidable_of_iff _ spec.faults_eq_nil_iff

mutual

/-- What is left of a declaration inside a resource. -/
def Declaration.flattened : Declaration → List Declaration
  | .route verb path target =>
    if target.WellFormed then [] else [.route verb path target]
  | .space _ block => flattenedAll block
  | .resources name options block => [.resources name options (flattenedAll block)]
  | .actions kind actions => [.actions kind actions]

def flattenedAll : List Declaration → List Declaration
  | [] => []
  | d :: rest => d.flattened ++ flattenedAll rest

end

mutual

/-- A declaration outside every resource with the resources in it flattened. -/
def Declaration.normalized : Declaration → Declaration
  | .route verb path target => .route verb path target
  | .space names block => .space names (normalizedAll block)
  | .resources name options block => .resources name options (flattenedAll block)
  | .actions kind actions => .actions kind actions

def normalizedAll : List Declaration → List Declaration
  | [] => []
  | d :: rest => d.normalized :: normalizedAll rest

end

def Definition.normalized (d : Definition) : Definition := ⟨normalizedAll d.declarations⟩

mutual

/-- Inside a resource there is no namespace, and no direct verb that goes through. -/
def Declaration.IsFlat (inside : Prop) : Declaration → Prop
  | .route _ _ target => inside → ¬target.WellFormed
  | .space _ block => ¬inside ∧ IsFlatAll inside block
  | .resources _ _ block => IsFlatAll True block
  | .actions _ _ => True

def IsFlatAll (inside : Prop) : List Declaration → Prop
  | [] => True
  | d :: rest => d.IsFlat inside ∧ IsFlatAll inside rest

end

def Definition.IsFlat (d : Definition) : Prop := IsFlatAll False d.declarations

/-! ## The shape -/

theorem isFlatAll_append (inside : Prop) (first second : List Declaration) :
    IsFlatAll inside (first ++ second) ↔ IsFlatAll inside first ∧ IsFlatAll inside second := by
  induction first with
  | nil => simp [IsFlatAll]
  | cons d rest ih => rw [List.cons_append, IsFlatAll, IsFlatAll, ih, and_assoc]

theorem isFlatAll_singleton (inside : Prop) (d : Declaration) :
    IsFlatAll inside [d] ↔ d.IsFlat inside := by
  simp [IsFlatAll]

mutual

theorem Declaration.isFlatAll_flattened (d : Declaration) : IsFlatAll True d.flattened := by
  cases d with
  | route verb path target =>
    rw [Declaration.flattened]
    split
    · trivial
    · rename_i hfault
      rw [isFlatAll_singleton, Declaration.IsFlat]
      exact fun _ => hfault
  | space names block =>
    rw [Declaration.flattened]
    exact isFlatAll_flattenedAll block
  | resources name options block =>
    rw [Declaration.flattened, isFlatAll_singleton, Declaration.IsFlat]
    exact isFlatAll_flattenedAll block
  | actions kind actions =>
    rw [Declaration.flattened, isFlatAll_singleton, Declaration.IsFlat]
    trivial

theorem isFlatAll_flattenedAll (block : List Declaration) :
    IsFlatAll True (flattenedAll block) := by
  cases block with
  | nil => trivial
  | cons d rest =>
    rw [flattenedAll, isFlatAll_append]
    exact ⟨d.isFlatAll_flattened, isFlatAll_flattenedAll rest⟩

end

mutual

theorem Declaration.isFlat_normalized (d : Declaration) : d.normalized.IsFlat False := by
  cases d with
  | route verb path target =>
    rw [Declaration.normalized, Declaration.IsFlat]
    exact False.elim
  | space names block =>
    rw [Declaration.normalized, Declaration.IsFlat]
    exact ⟨not_false, isFlatAll_normalizedAll block⟩
  | resources name options block =>
    rw [Declaration.normalized, Declaration.IsFlat]
    exact isFlatAll_flattenedAll block
  | actions kind actions =>
    rw [Declaration.normalized, Declaration.IsFlat]
    trivial

theorem isFlatAll_normalizedAll (block : List Declaration) :
    IsFlatAll False (normalizedAll block) := by
  cases block with
  | nil => trivial
  | cons d rest =>
    rw [normalizedAll, IsFlatAll]
    exact ⟨d.isFlat_normalized, isFlatAll_normalizedAll rest⟩

end

/-! ## What is made -/

/-- The outcome of a course and the origins of what it makes. -/
def Course.making (course : Course Deed α) : Course Origin α := course.filterMap Deed.origin?

theorem Course.making_bind (course : Course Deed α) (next : α → Course Deed β) :
    (course >>= next).making = course.making >>= fun a => (next a).making :=
  filterMap_bind course next

theorem Course.making_congr {course : Course Deed α} {next next' : α → Course Deed β}
    (h : ∀ a, course.outcome = .ok a → (next a).making = (next' a).making) :
    (course >>= next).making = (course >>= next').making := by
  rw [making_bind, making_bind]
  exact bind_congr h

theorem making_courseAll_append {first first' second second' : List Declaration}
    (hfirst : (courseAll scope first).making = (courseAll scope first').making)
    (hsecond : (courseAll scope second).making = (courseAll scope second').making) :
    (courseAll scope (first ++ second)).making = (courseAll scope (first' ++ second')).making := by
  rw [courseAll_append, courseAll_append, making_bind, making_bind, hfirst, hsecond]

/-- A well-formed target inside a resource leaves no more than a note. -/
theorem making_ignored (inner : ResourceScope) (verb : Verb) (path : String) {target : TargetSpec}
    (h : target.WellFormed) :
    ((Scope.resource inner).routeCourse verb path target).making = pure () := by
  rw [Scope.routeCourse, target.resolve_eq_ok (target.faults_eq_nil_iff.mpr h)]
  rfl

theorem making_drawnInPlace (inner : ResourceScope) (names : List String)
    (block : List Declaration) :
    ((Declaration.space names block).course (.resource inner)).making =
      (courseAll (.resource inner) block).making := by
  rw [Declaration.course]
  rfl

/-- A resource runs its block at the scope of a resource. -/
theorem making_resources (scope : Scope) (name : String) (options : OptionSpec)
    {block block' : List Declaration}
    (h : ∀ inner, (courseAll (.resource inner) block).making =
      (courseAll (.resource inner) block').making) :
    ((Declaration.resources name options block).course scope).making =
      ((Declaration.resources name options block').course scope).making := by
  rw [Declaration.course, Declaration.course]
  refine making_congr fun options _ => making_congr fun inner hinner => ?_
  obtain ⟨resource, -, rfl⟩ := (Scope.resourceCourse_outcome_eq_ok_iff name options).mp hinner
  exact h resource

mutual

theorem Declaration.making_flattened (inner : ResourceScope) (d : Declaration) :
    (courseAll (.resource inner) d.flattened).making = (d.course (.resource inner)).making := by
  cases d with
  | route verb path target =>
    rw [Declaration.flattened]
    split
    · rename_i htarget
      rw [Declaration.course, making_ignored inner verb path htarget, courseAll]
      rfl
    · rw [courseAll_singleton]
  | space names block =>
    rw [Declaration.flattened, making_drawnInPlace, making_flattenedAll inner block]
  | resources name options block =>
    rw [Declaration.flattened, courseAll_singleton]
    exact making_resources _ name options fun inner => making_flattenedAll inner block
  | actions kind actions => rw [Declaration.flattened, courseAll_singleton]

theorem making_flattenedAll (inner : ResourceScope) (block : List Declaration) :
    (courseAll (.resource inner) (flattenedAll block)).making =
      (courseAll (.resource inner) block).making := by
  cases block with
  | nil => rw [flattenedAll]
  | cons d rest =>
    rw [flattenedAll, ← List.singleton_append (l := rest)]
    refine making_courseAll_append ?_ (making_flattenedAll inner rest)
    rw [courseAll_singleton, d.making_flattened inner]

end

mutual

theorem Declaration.making_normalized {scope : Scope} (h : scope.frame? = none) (d : Declaration) :
    (d.normalized.course scope).making = (d.course scope).making := by
  cases d with
  | route verb path target => rw [Declaration.normalized]
  | space names block =>
    rw [Declaration.normalized, Declaration.course, Declaration.course]
    refine making_congr fun inner hinner => ?_
    rcases (Scope.spaceCourse_outcome_eq_ok_iff names).mp hinner with
      ⟨resource, rfl, -⟩ | ⟨-, -, -, rfl⟩
    · cases h
    · exact making_normalizedAll rfl block
  | resources name options block =>
    rw [Declaration.normalized]
    exact making_resources scope name options fun inner => making_flattenedAll inner block
  | actions kind actions => rw [Declaration.normalized]

theorem making_normalizedAll {scope : Scope} (h : scope.frame? = none)
    (block : List Declaration) :
    (courseAll scope (normalizedAll block)).making = (courseAll scope block).making := by
  cases block with
  | nil => rw [normalizedAll]
  | cons d rest =>
    rw [normalizedAll, courseAll, courseAll, making_bind, making_bind, d.making_normalized h,
      making_normalizedAll h rest]

end

/-- A definition may be given with its resources flattened: it compiles to the same table or to
the same fault, and on every table it leaves what the first one leaves, however far that gets. -/
theorem Definition.normalized_agrees (d : Definition) :
    d.normalized.IsFlat ∧
      (∀ settings, (d.normalized.compile settings).1 = (d.compile settings).1) ∧
      ∀ {τ η ν : Type} (env : Surroundings τ η ν) (table : τ),
        (d.normalized.replay env .root table).outcome = (d.replay env .root table).outcome ∧
          (d.normalized.replay env .root table).table = (d.replay env .root table).table := by
  have hmaking : (courseAll .root d.normalized.declarations).making =
      (courseAll .root d.declarations).making := making_normalizedAll rfl d.declarations
  obtain ⟨houtcome, hmade⟩ := Course.mk.inj hmaking
  refine ⟨isFlatAll_normalizedAll d.declarations, fun settings => ?_, fun env table => ?_⟩
  · simp only [compile_eq_course, routesOf, houtcome, hmade]
  · simp only [replay, replayAll_eq_perform, Course.perform_act, houtcome, hmade, and_self]

end RoutePlan
