import RoutePlan.Proofs.Course
import RoutePlan.Proofs.Singular

/-! # Sound scopes

A scope is sound if what it holds has been checked: its chain is made of segments, every
resource it stands in has a name, a controller and a parameter that are segments, and inside a
resource the chain of the scope is the one that the frame keeps. The root is sound, and every
scope that opens inside a sound one is sound. What a sound scope puts before a
path is empty at the root and else a path that starts with a slash and does not end in one.
-/

namespace RoutePlan

variable {settings : Settings} {outer inner scope : Scope} {resource : ResourceScope}
  {frame : Frame}

/-! ## What a scope opens -/

namespace Scope

theorem frame?_eq_some_iff :
    scope.frame? = some frame ↔ ∃ inner, scope = .resource inner ∧ inner.frame = frame := by
  cases scope <;> simp [frame?]

theorem spaceCourse_outcome (scope : Scope) (names : List String) :
    (scope.spaceCourse names).outcome =
      match scope.frame? with
      | some _ => .ok scope
      | none =>
        if names.isEmpty then .error (.invalidName .space "")
        else (checkNames .space names).map fun _ => .space (scope.chain ++ names) := by
  unfold spaceCourse
  cases scope.frame? with
  | some frame => rfl
  | none =>
    cases names with
    | nil => rfl
    | cons first rest =>
      rw [if_neg (by simp), if_neg (by simp)]
      cases checkNames .space (first :: rest) <;> rfl

/-- Inside a resource a namespace opens the scope itself, and outside it opens a longer chain. -/
theorem spaceCourse_outcome_eq_ok_iff (names : List String) :
    (outer.spaceCourse names).outcome = .ok inner ↔
      (∃ resource, outer = .resource resource ∧ inner = outer) ∨
        (outer.frame? = none ∧ names ≠ [] ∧ (∀ s ∈ names, IsSegment s) ∧
          inner = .space (outer.chain ++ names)) := by
  rw [spaceCourse_outcome]
  cases h : outer.frame? with
  | some frame =>
    obtain ⟨resource, rfl, -⟩ := frame?_eq_some_iff.mp h
    simp [eq_comm]
  | none =>
    have hnot : ∀ resource, outer ≠ .resource resource := by
      rintro resource rfl
      cases h
    have hcheck : checkNames .space names = .ok () ↔ ∀ s ∈ names, IsSegment s := by
      rw [checkNames_eq_verdict, ← nameFaults_eq_nil_iff .space]
      cases nameFaults .space names <;> simp
    simp only [hnot, false_and, exists_false, false_or, true_and, ← hcheck]
    cases names with
    | nil => simp
    | cons first rest =>
      rw [if_neg (by simp)]
      cases checkNames .space (first :: rest) <;> simp [Except.map, eq_comm]

theorem resourceCourse_outcome_eq_ok_iff (name : String) (options : ResourceOptions) :
    (outer.resourceCourse name options).outcome = .ok inner ↔
      ∃ resource, outer.declareResource name options = .ok resource ∧
        inner = .resource resource := by
  unfold resourceCourse
  cases outer.declareResource name options with
  | error f => simp [Course.ofExcept, Course.mk_error_bind]
  | ok resource => simp [Course.ofExcept, Course.mk_ok_bind, eq_comm]

/-- The scope of a resource that is declared, and what is checked before. -/
theorem declareResource_eq_ok_iff (name : String) (options : ResourceOptions) :
    scope.declareResource name options = .ok resource ↔
      (IsSegment name ∧ (∀ s ∈ options.space, IsSegment s) ∧
        (∀ s ∈ options.controller, IsSegment s) ∧ ∀ s ∈ options.param, IsSegment s) ∧
      resource = scope.declared name options := by
  have hall := nameFaults_eq_nil_iff .resources (options.names name)
  simp only [ResourceOptions.names, List.mem_cons, List.mem_append, Option.mem_toList, or_imp,
    forall_and, forall_eq, and_assoc] at hall
  simp only [Option.mem_def]
  rw [← hall, declareResource_eq_verdict, ResourceOptions.names]
  cases nameFaults .resources _ with
  | nil => simp [Except.map, eq_comm]
  | cons f rest => simp [Except.map]

theorem enterActions_eq_ok_iff (kind : ActionKind) (inner : ActionScope) :
    scope.enterActions kind = .ok inner ↔
      scope = .resource inner.toResourceScope ∧ inner.kind = kind := by
  cases scope with
  | root => simp [enterActions]
  | space chain => simp [enterActions]
  | resource resource =>
    simp only [enterActions, Except.ok.injEq, Scope.resource.injEq]
    constructor
    · rintro rfl
      exact ⟨rfl, rfl⟩
    · rintro ⟨rfl, rfl⟩
      rfl

end Scope

/-! ## Soundness -/

namespace Frame

/-- The frame and the frames around it, the innermost first. -/
def line : Frame → List Frame
  | .top r => [.top r]
  | .nested r p => .nested r p :: p.line

theorem self_mem_line (frame : Frame) : frame ∈ frame.line := by
  cases frame <;> exact List.mem_cons_self

theorem line_ofParent (parent : Option Frame) (r : Resource) :
    (ofParent parent r).line = ofParent parent r :: (parent.map line).getD [] := by
  cases parent <;> rfl

theorem parent?_ofParent (parent : Option Frame) (r : Resource) :
    (ofParent parent r).parent? = parent := by
  cases parent <;> rfl

/-- What the declaration of a resource has checked and stored. -/
structure Proper (frame : Frame) : Prop where
  name : IsSegment frame.name
  controller : IsSegment frame.controller
  param : IsSegment frame.resource.param
  chain : ∀ s ∈ frame.chain, IsSegment s
  space : frame.resource.options.space = none
  stored : frame.resource.options.controller = some frame.controller
  parent : ∀ p ∈ frame.parent?, p.chain <+: frame.chain

def IsSound (frame : Frame) : Prop := ∀ f ∈ frame.line, f.Proper

theorem IsSound.proper (h : frame.IsSound) : frame.Proper := h frame frame.self_mem_line

theorem IsSound.parent {parent : Frame} {r : Resource} (h : (nested r parent).IsSound) :
    parent.IsSound :=
  fun f hf => h f (List.mem_cons_of_mem _ hf)

end Frame

/-- The frame is sound, and both keep the same chain. -/
structure ResourceScope.IsSound (scope : ResourceScope) : Prop where
  frame : scope.frame.IsSound
  chain : scope.chain = scope.frame.chain

namespace Scope

def IsSound : Scope → Prop
  | .root => True
  | .space chain => chain ≠ [] ∧ ∀ s ∈ chain, IsSegment s
  | .resource resource => resource.IsSound

theorem IsSound.chain (h : scope.IsSound) : ∀ s ∈ scope.chain, IsSegment s := by
  cases scope with
  | root => exact fun s hs => absurd hs List.not_mem_nil
  | space chain => exact h.2
  | resource resource =>
    have hsound : resource.IsSound := h
    have hchain : (Scope.resource resource).chain = resource.frame.chain := hsound.chain
    rw [hchain]
    exact hsound.frame.proper.chain

theorem isSound_space {names : List String} (h : outer.IsSound)
    (hopen : (outer.spaceCourse names).outcome = .ok inner) : inner.IsSound := by
  rcases (spaceCourse_outcome_eq_ok_iff names).mp hopen with
    ⟨resource, -, rfl⟩ | ⟨-, hne, hnames, rfl⟩
  · exact h
  · refine ⟨fun hnil => hne (List.append_eq_nil_iff.mp hnil).2, fun s hs => ?_⟩
    rcases List.mem_append.mp hs with hs | hs
    · exact h.chain s hs
    · exact hnames s hs

/-- The frame of a sound scope is sound, and it keeps the scope's chain. -/
theorem IsSound.of_frame? (h : scope.IsSound) (hf : scope.frame? = some frame) :
    frame.IsSound ∧ scope.chain = frame.chain := by
  obtain ⟨resource, rfl, rfl⟩ := frame?_eq_some_iff.mp hf
  have hsound : resource.IsSound := h
  exact ⟨hsound.frame, hsound.chain⟩

theorem chain_declared (scope : Scope) (name : String) (options : ResourceOptions) :
    (scope.declared name options).frame.chain = scope.chain ++ options.space.toList := by
  rw [Frame.chain, resource_declared]
  rfl

/-- What is declared with segments only is proper where the scope is sound. -/
theorem IsSound.proper_declared {name : String} {options : ResourceOptions} (h : scope.IsSound)
    (hname : IsSegment name) (hspace : ∀ s ∈ options.space, IsSegment s)
    (hcontroller : ∀ s ∈ options.controller, IsSegment s)
    (hparam : ∀ s ∈ options.param, IsSegment s) :
    (scope.declared name options).frame.Proper where
  name := by rwa [Frame.name, resource_declared]
  controller := by
    rw [Frame.controller, resource_declared]
    cases hc : options.controller with
    | none => simpa [Resource.controller, Resource.declare, hc] using hname
    | some c => simpa [Resource.controller, Resource.declare, hc] using hcontroller c hc
  param := by
    rw [resource_declared]
    cases hp : options.param with
    | none => simpa [Resource.param, Resource.declare, hp] using isSegment_singular hname
    | some p => simpa [Resource.param, Resource.declare, hp] using hparam p hp
  chain := by
    rw [chain_declared, List.forall_mem_append]
    exact ⟨h.chain, fun s hs => hspace s (Option.mem_toList.mp hs)⟩
  space := by
    rw [resource_declared]
    rfl
  stored := by
    rw [Frame.controller, resource_declared]
    rfl
  parent := by
    -- The frame around keeps the chain of its scope, which is the one that is extended here.
    intro p hp
    rw [declared, Frame.parent?_ofParent] at hp
    rw [chain_declared, (h.of_frame? hp).2]
    exact List.prefix_append p.chain _

/-- A resource is declared with segments only, and takes its chain from where it stands. -/
theorem isSound_declareResource {name : String} {options : ResourceOptions} (h : scope.IsSound)
    (hdeclare : scope.declareResource name options = .ok resource) : resource.IsSound := by
  obtain ⟨⟨hname, hspace, hcontroller, hparam⟩, rfl⟩ :=
    (declareResource_eq_ok_iff name options).mp hdeclare
  refine ⟨fun f hf => ?_, (scope.chain_declared name options).symm⟩
  rw [declared, Frame.line_ofParent, List.mem_cons] at hf
  rcases hf with rfl | hf
  · exact h.proper_declared hname hspace hcontroller hparam
  · cases hs : scope.frame? with
    | none => simp [hs] at hf
    | some parent => exact (h.of_frame? hs).1 f (by simpa [hs] using hf)

end Scope

/-! ## Stems -/

open RoutePlan.Path

theorem Frame.isAbsolute_collectionPath (settings : Settings) (frame : Frame) :
    IsAbsolute (frame.collectionPath settings) := by
  induction frame with
  | top r =>
    rw [collectionPath, String.append_assoc]
    cases hc : r.chain with
    | nil => exact isAbsolute_slash r.name
    | cons s rest => exact (isAbsolute_ofChain (by simp)).append _
  | nested r p ih =>
    rw [collectionPath, String.append_assoc, String.append_assoc]
    exact ih.append _

theorem Frame.isClosed_collectionPath (settings : Settings) (h : IsSegment frame.name) :
    IsClosed (frame.collectionPath settings) := by
  cases frame with
  | top r => exact (isClosed_of_isSegment h).append _
  | nested r p => exact (isClosed_of_isSegment h).append _

namespace Scope

/-- Outside every resource the chain is all there is to a scope. -/
theorem stem_of_frame?_eq_none {settings : Settings} (h : scope.frame? = none) :
    scope.stem settings = ofChain scope.chain := by
  cases scope with
  | root => rfl
  | space chain => rfl
  | resource resource => cases h

/-- Everywhere but at the root the path of a sound scope starts with a slash and does not end
in one. -/
theorem IsSound.stem (settings : Settings) (h : scope.IsSound) (hne : scope ≠ .root) :
    IsAbsolute (scope.stem settings) ∧ IsClosed (scope.stem settings) := by
  cases scope with
  | root => exact absurd rfl hne
  | space chain => exact ⟨isAbsolute_ofChain h.1, isClosed_ofChain h.1 h.2⟩
  | resource resource =>
    have hsound : resource.IsSound := h
    exact ⟨resource.frame.isAbsolute_collectionPath settings,
      Frame.isClosed_collectionPath settings hsound.frame.proper.name⟩

theorem IsSound.stem_eq_empty_iff (settings : Settings) (h : scope.IsSound) :
    scope.stem settings = "" ↔ scope = .root := by
  constructor
  · intro hstem
    by_cases hroot : scope = .root
    · exact hroot
    · exact absurd hstem (h.stem settings hroot).2.ne_empty
  · rintro rfl
    rfl

end Scope

theorem ActionScope.stem_of_isSound (settings : Settings) {actions : ActionScope}
    (h : actions.frame.IsSound) :
    IsAbsolute (actions.stem settings) ∧ IsClosed (actions.stem settings) := by
  obtain ⟨resource, kind⟩ := actions
  have habsolute := resource.frame.isAbsolute_collectionPath settings
  cases kind with
  | member =>
    exact ⟨habsolute.append _, (isClosed_idSegment settings "id").append _⟩
  | collection => exact ⟨habsolute, Frame.isClosed_collectionPath settings h.proper.name⟩

/-! ## Addresses inside resources -/

namespace Origin

theorem path_conventional (settings : Settings) (h : IsSegment resource.frame.name) (a : Action) :
    (conventional resource a).path settings =
      resource.frame.collectionPath settings ++ a.suffix settings :=
  join_suffix settings a (Frame.isClosed_collectionPath settings h)

theorem path_extra (settings : Settings) {actions : ActionScope} (h : actions.frame.IsSound)
    (verb : Verb) {name : String} (hname : IsSegment name) :
    (extra actions verb name).path settings = actions.stem settings ++ "/" ++ name :=
  join_segment (ActionScope.stem_of_isSound settings h).2 hname

end Origin

end RoutePlan
