import RoutePlan.Proofs.Program.Standing

/-! # Reached scopes

The scopes that operations lead to from the root, with the scopes around each of them. All of
them are lawful: their chains are made of segments, a resource scope has the chain that its
frame keeps, the frame holds the frame of the nearest resource scope around as its parent and a
chain that goes on from the parent's, and the path of a scope is empty at the root and else
starts with a slash and does not end in one.
-/

namespace RoutePlan

variable {τ η ν : Type} {env : Surroundings τ η ν} {around : List Scope}
  {outer inner scope : Scope} {resource : ResourceScope}

/-- A scope that operations lead to, with the scopes around it, the innermost first. A namespace
inside a resource opens no scope of its own. -/
inductive Reached (env : Surroundings τ η ν) : List Scope → Scope → Prop where
  | root : Reached env [] .root
  | space {around : List Scope} {outer inner : Scope} {names : List String} {table : τ}
      (reached : Reached env around outer) (outside : outer.frame? = none)
      (opened : (outer.enterSpace env names table).outcome = .ok inner) :
      Reached env (outer :: around) inner
  | inPlace {around : List Scope} {outer inner : Scope} {names : List String} {table : τ}
      (reached : Reached env around outer) (inside : outer.frame?.isSome)
      (opened : (outer.enterSpace env names table).outcome = .ok inner) :
      Reached env around inner
  | resource {around : List Scope} {outer inner : Scope} {name : String}
      {options : ResourceOptions} {table : τ} (reached : Reached env around outer)
      (opened : (outer.enterResource env name options table).outcome = .ok inner) :
      Reached env (outer :: around) inner

theorem Scope.enterSpace_outcome (env : Surroundings τ η ν) (scope : Scope)
    (names : List String) (table : τ) :
    (scope.enterSpace env names table).outcome = (scope.spaceCourse names).outcome := by
  rw [Scope.enterSpace_eq_perform]
  exact (Course.makes_perform (Deed.makes_act env) _ table).1

theorem Scope.enterResource_outcome (env : Surroundings τ η ν) (scope : Scope) (name : String)
    (options : ResourceOptions) (table : τ) :
    (scope.enterResource env name options table).outcome =
      (scope.resourceCourse name options).outcome := by
  rw [Scope.enterResource_eq_perform]
  exact (Course.makes_perform (Deed.makes_act env) _ table).1

/-- Outside resources a namespace opens a longer chain. -/
theorem Scope.eq_of_enterSpace_outside {names : List String} {table : τ}
    (outside : outer.frame? = none)
    (opened : (outer.enterSpace env names table).outcome = .ok inner) :
    inner = .space (outer.chain ++ names) := by
  rw [enterSpace_outcome, spaceCourse_outcome_eq_ok_iff] at opened
  rcases opened with ⟨resource, rfl, -⟩ | ⟨-, -, -, hinner⟩
  · cases outside
  · exact hinner

/-- Inside a resource a namespace leaves the scope alone. -/
theorem Scope.eq_of_enterSpace_inside {names : List String} {table : τ}
    (inside : outer.frame?.isSome)
    (opened : (outer.enterSpace env names table).outcome = .ok inner) : inner = outer := by
  rw [enterSpace_outcome, spaceCourse_outcome_eq_ok_iff] at opened
  rcases opened with ⟨resource, -, hinner⟩ | ⟨hnone, -⟩
  · exact hinner
  · simp [hnone] at inside

theorem Scope.enterResource_eq_ok_iff (name : String) (options : ResourceOptions) (table : τ) :
    (outer.enterResource env name options table).outcome = .ok inner ↔
      ∃ resource, outer.declareResource name options = .ok resource ∧
        inner = .resource resource := by
  rw [enterResource_outcome, resourceCourse_outcome_eq_ok_iff]

theorem inherited_reached (env : Surroundings τ η ν) (table : τ) :
    Inherited fun scope => ∃ around, Reached env around scope where
  space {outer inner names} h hopen := by
    obtain ⟨around, hreached⟩ := h
    rw [← Scope.enterSpace_outcome env outer names table] at hopen
    cases hf : outer.frame? with
    | none => exact ⟨_, hreached.space hf hopen⟩
    | some frame => exact ⟨_, hreached.inPlace (by simp [hf]) hopen⟩
  resource {outer inner name options} h hopen := by
    obtain ⟨around, hreached⟩ := h
    rw [← Scope.enterResource_outcome env outer name options table] at hopen
    exact ⟨_, hreached.resource hopen⟩

theorem Reached.isSound (h : Reached env around scope) : scope.IsSound := by
  induction h with
  | root => trivial
  | space _ _ opened ih | inPlace _ _ opened ih =>
    rw [Scope.enterSpace_outcome] at opened
    exact inherited_isSound.space ih opened
  | resource _ opened ih =>
    rw [Scope.enterResource_outcome] at opened
    exact inherited_isSound.resource ih opened

/-- The frames of a resource scope are those of the resource scopes around it. -/
theorem Reached.line_eq (h : Reached env around scope) :
    (scope.frame?.map Frame.line).getD [] = (scope :: around).filterMap Scope.frame? := by
  -- A namespace outside has no frame around it, and one drawn in place leaves the scope alone.
  induction h with
  | root => rfl
  | space _ outside opened ih =>
    obtain rfl := Scope.eq_of_enterSpace_outside outside opened
    rw [List.filterMap_cons_none (by rfl), ← ih, outside]
    rfl
  | inPlace _ inside opened ih =>
    obtain rfl := Scope.eq_of_enterSpace_inside inside opened
    exact ih
  | @resource around outer inner name options table _ opened ih =>
    obtain ⟨resource, hdeclare, rfl⟩ := (Scope.enterResource_eq_ok_iff ..).mp opened
    obtain ⟨-, rfl⟩ := (Scope.declareResource_eq_ok_iff name options).mp hdeclare
    rw [List.filterMap_cons_some (by rfl), ← ih]
    exact Frame.line_ofParent _ _

theorem Frame.parent?_eq (frame : Frame) : frame.parent? = frame.line.tail.head? := by
  cases frame with
  | top r => rfl
  | nested r p => cases p <;> rfl

/-- The parent of a frame is the frame of the nearest resource scope around. -/
theorem Reached.parent?_eq (h : Reached env around (.resource resource)) :
    resource.frame.parent? = around.findSome? Scope.frame? := by
  have hline : resource.frame.line = resource.frame :: around.filterMap Scope.frame? := h.line_eq
  rw [Frame.parent?_eq, hline, List.tail_cons, List.head?_filterMap]

/-- What holds of a scope among the scopes `around` it. -/
structure Scope.Lawful (settings : Settings) (around : List Scope) (scope : Scope) : Prop where
  segments : ∀ s ∈ scope.chain, IsSegment s
  /-- The names of all resources around, this one's among them. -/
  resources : ∀ frame ∈ (scope :: around).filterMap Scope.frame?,
    IsSegment frame.name ∧ IsSegment frame.controller ∧ IsSegment frame.resource.param
  root : scope = .root → scope.chain = []
  space : ∀ chain, scope = .space chain → scope.chain ≠ []
  /-- The scope and its frame keep the same chain, which goes on from the parent's. -/
  chain : ∀ resource, scope = .resource resource →
    resource.chain = resource.frame.chain ∧
      ∀ parent ∈ resource.frame.parent?, parent.chain <+: resource.chain
  parent : ∀ resource, scope = .resource resource →
    resource.frame.parent? = around.findSome? Scope.frame?
  options : ∀ resource, scope = .resource resource →
    resource.frame.resource.options.space = none ∧
      resource.frame.resource.options.controller = some resource.frame.controller
  stem_eq_empty_iff : scope.stem settings = "" ↔ scope = .root
  stem : scope ≠ .root →
    Path.IsAbsolute (scope.stem settings) ∧ Path.IsClosed (scope.stem settings)

theorem Reached.lawful (settings : Settings) (h : Reached env around scope) :
    scope.Lawful settings around where
  segments := h.isSound.chain
  resources frame hf := by
    rw [← h.line_eq] at hf
    cases scope with
    | root => cases hf
    | space chain => cases hf
    | resource inner =>
      have hsound : inner.IsSound := h.isSound
      have hproper := hsound.frame frame hf
      exact ⟨hproper.name, hproper.controller, hproper.param⟩
  root := by
    rintro rfl
    rfl
  space := by
    rintro chain rfl
    exact h.isSound.1
  chain := by
    rintro resource rfl
    have hsound : resource.IsSound := h.isSound
    refine ⟨hsound.chain, fun parent hparent => ?_⟩
    rw [hsound.chain]
    exact hsound.frame.proper.parent parent hparent
  parent := by
    rintro resource rfl
    exact h.parent?_eq
  options := by
    rintro resource rfl
    have hsound : resource.IsSound := h.isSound
    exact ⟨hsound.frame.proper.space, hsound.frame.proper.stored⟩
  stem_eq_empty_iff := h.isSound.stem_eq_empty_iff settings
  stem := h.isSound.stem settings

end RoutePlan
