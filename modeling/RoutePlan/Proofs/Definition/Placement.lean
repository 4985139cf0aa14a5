import RoutePlan.Proofs.Definition.Occurrence
import RoutePlan.Proofs.Path

/-! # Placement

A scope is the state of a replay, a nesting is what the reader of a definition sees. A nesting
describes a scope when both agree on the chain, on the path and on the innermost resource.
The empty nesting describes the root, and entering a block keeps the description.
-/

namespace RoutePlan

theorem Target.extend_eq (t : Target) (stem : String) : t.extend stem = stem ++ t.detour := by
  unfold extend detour
  cases t.mount with
  | some mount => by_cases h : mount.toList.head? = some '/' <;> simp [h, String.append_assoc]
  | none => cases t.space <;> simp [String.append_assoc]

/-- A target that is resolved before the call is checked a second time by the verb, which then
finds nothing. -/
theorem Scope.route_resolved {τ η ν : Type} (env : Surroundings τ η ν) (scope : Scope)
    (verb : Verb) (path : String) (spec : TargetSpec) :
    (do
      let target ← Drawing.ofExcept spec.resolve
      scope.route env verb path (.full target)) = scope.route env verb path spec := by
  cases h : spec.resolve with
  | error f =>
    rw [Scope.route, h]
    rfl
  | ok t =>
    change scope.route env verb path (.full t) = _
    rw [Scope.route, Scope.route, h, TargetSpec.resolve_full h]

theorem Frame.resource_ofParent (parent : Option Frame) (r : Resource) :
    (ofParent parent r).resource = r := by
  cases parent <;> rfl

/-- The names that are looked at when a resource is declared, in this order. -/
def ResourceOptions.names (name : String) (options : ResourceOptions) : List String :=
  name :: (options.space.toList ++ options.controller.toList ++ options.param.toList)

namespace Scope

/-- The scope that a resource gets where it is declared. -/
def declared (scope : Scope) (name : String) (options : ResourceOptions) : ResourceScope where
  chain := scope.chain ++ options.space.toList
  frame := .ofParent scope.frame? (Resource.declare name { options with space := none }
    (scope.chain ++ options.space.toList))

theorem resource_declared (scope : Scope) (name : String) (options : ResourceOptions) :
    (scope.declared name options).frame.resource =
      Resource.declare name { options with space := none }
        (scope.chain ++ options.space.toList) :=
  Frame.resource_ofParent _ _

/-- Nothing but a name can be refused. -/
theorem declareResource_eq_verdict (scope : Scope) (name : String) (options : ResourceOptions) :
    scope.declareResource name options =
      (verdict (nameFaults .resources (options.names name))).map fun _ =>
        scope.declared name options := by
  unfold declareResource
  change (checkNames .resources (options.names name) >>= fun _ =>
    Except.ok (scope.declared name options)) = _
  rw [checkNames_eq_verdict]
  cases verdict (nameFaults .resources (options.names name)) <;> rfl

/-- The same of a resource as it is written. -/
def resourceAt (scope : Scope) (r : ResourceSpec) : ResourceScope :=
  scope.declared r.name r.options.reading

theorem declareResource_eq (scope : Scope) (r : ResourceSpec) :
    scope.declareResource r.name r.options.reading =
      (verdict (nameFaults .resources r.names)).map fun _ => scope.resourceAt r :=
  scope.declareResource_eq_verdict r.name r.options.reading

end Scope

namespace Nesting

/-- Outside every resource the path is the chain's. -/
theorem path_eq_ofChain {settings : Settings} {around : Nesting} (h : around.resource? = none) :
    around.path settings = Path.ofChain around.chain := by
  cases around with
  | root => rfl
  | space outer names =>
    have hout : ¬outer.resource?.isSome = true := by simp [show outer.resource? = none from h]
    rw [path, chain, if_neg hout, if_neg hout]
  | resources outer r => cases h

/-- Frames and written resources are compared by what the places inside them read of them. -/
structure Describes (settings : Settings) (around : Nesting) (scope : Scope) : Prop where
  chain : scope.chain = around.chain
  path : scope.stem settings = around.path settings
  resource : scope.frame?.map (fun f => (f.controller, f.resource.param)) =
    around.resource?.map fun r => (r.controller, r.param)
  /-- The path of a resource ends in its name, so a local part can be put behind it. -/
  closed : around.resource?.isSome → Path.IsClosed (around.path settings)

namespace Describes

variable {settings : Settings} {around : Nesting} {scope : Scope}

theorem root (settings : Settings) : Describes settings .root .root :=
  ⟨rfl, rfl, rfl, fun h => by cases h⟩

theorem frame?_eq_none (h : Describes settings around scope) (hr : around.resource? = none) :
    scope.frame? = none := by
  have hview := h.resource
  rw [hr, Option.map_none, Option.map_eq_none_iff] at hview
  exact hview

/-- Inside a resource the scope is the one of a resource that tells the same. -/
theorem exists_resource (h : Describes settings around scope) {r : ResourceSpec}
    (hr : around.resource? = some r) :
    ∃ inner, scope = .resource inner ∧ inner.frame.controller = r.controller ∧
      inner.frame.resource.param = r.param := by
  have hview := h.resource
  rw [hr, Option.map_some, Option.map_eq_some_iff] at hview
  obtain ⟨frame, hf, heq⟩ := hview
  cases scope with
  | root => cases hf
  | space chain => cases hf
  | resource inner =>
    obtain rfl := Option.some.inj hf
    exact ⟨inner, rfl, congrArg Prod.fst heq, congrArg Prod.snd heq⟩

theorem space_inside (h : Describes settings around scope) (names : List String)
    (hr : around.resource?.isSome) : Describes settings (around.space names) scope := by
  refine ⟨?_, ?_, h.resource, fun _ => ?_⟩
  · rw [Nesting.chain, if_pos hr, h.chain]
  · rw [Nesting.path, if_pos hr, h.path]
  · rw [Nesting.path, if_pos hr]
    exact h.closed hr

theorem space_outside (h : Describes settings around scope) (names : List String)
    (hr : around.resource? = none) :
    Describes settings (around.space names) (.space (scope.chain ++ names)) := by
  have hnot : ¬around.resource?.isSome = true := by simp [hr]
  refine ⟨?_, ?_, ?_, fun hs => ?_⟩
  · rw [Nesting.chain, if_neg hnot, ← h.chain]
    rfl
  · rw [Nesting.path, if_neg hnot, ← h.chain]
    rfl
  · rw [resource?, hr]
    rfl
  · exact absurd hs hnot

theorem collectionPath_resourceAt (h : Describes settings around scope) (r : ResourceSpec) :
    (scope.resourceAt r).frame.collectionPath settings = (around.resources r).path settings := by
  cases hr : around.resource? with
  | none =>
    rw [Scope.resourceAt, Scope.declared, h.frame?_eq_none hr, h.chain]
    simp only [Nesting.path, hr]
    rfl
  | some parent =>
    obtain ⟨inner, rfl, -, hparam⟩ := h.exists_resource hr
    have hpath : inner.frame.collectionPath settings = around.path settings := h.path
    simp only [Nesting.path, hr]
    rw [← hpath, ← hparam]
    rfl

theorem resources (h : Describes settings around scope) (r : ResourceSpec)
    (hn : IsSegment r.name) :
    Describes settings (around.resources r) (.resource (scope.resourceAt r)) := by
  refine ⟨?_, h.collectionPath_resourceAt r, ?_, fun _ => ?_⟩
  · change scope.chain ++ r.options.space.toList = _
    rw [h.chain]
    rfl
  · change some ((scope.resourceAt r).frame.resource.controller,
      (scope.resourceAt r).frame.resource.param) = _
    rw [Scope.resourceAt, Scope.resource_declared]
    rfl
  · simp only [Nesting.path]
    cases around.resource? with
    | none => exact (Path.isClosed_of_isSegment hn).append _
    | some parent => exact (Path.isClosed_of_isSegment hn).append _

end Describes
end Nesting
end RoutePlan
