import RoutePlan.Proofs.Scope

/-! # Longer chains

A namespace chain grows in three ways: a namespace block opens a scope with a longer chain, the
namespace option of a resource ends the chain of that resource, and the namespace of a target
ends the chain of one route. Outside resources it makes no difference which of them puts a
segment there.
-/

namespace RoutePlan

variable {τ η ν α : Type}

namespace Scope

/-- A namespace, with the block that is drawn inside it. -/
def inSpace (env : Surroundings τ η ν) (scope : Scope) (names : List String)
    (block : Scope → Drawing τ ν α) : Drawing τ ν α :=
  scope.enterSpace env names >>= block

/-- A resource, with the block that is drawn inside it. -/
def inResource (env : Surroundings τ η ν) (scope : Scope) (name : String)
    (options : ResourceOptions) (block : Scope → Drawing τ ν α) : Drawing τ ν α :=
  scope.enterResource env name options >>= block

end Scope

namespace Scope

variable {env : Surroundings τ η ν} {scope : Scope}

/-- Outside resources a namespace is the verdict on its names before the block. -/
theorem inSpace_eq (h : scope.frame? = none) {names : List String} (hne : names ≠ [])
    (block : Scope → Drawing τ ν α) :
    scope.inSpace env names block =
      Drawing.ofExcept (verdict (nameFaults .space names)) >>= fun _ =>
        block (.space (scope.chain ++ names)) := by
  have hnot : ¬names.isEmpty = true := by simpa using hne
  unfold inSpace enterSpace
  rw [h, if_neg hnot, checkNames_eq_verdict, bind_assoc]
  rfl

/-- One segment that is a name only changes the scope of the block. -/
theorem inSpace_singleton (h : scope.frame? = none) {s : String} (hs : IsSegment s)
    (block : Scope → Drawing τ ν α) :
    scope.inSpace env [s] block = block (.space (scope.chain ++ [s])) := by
  have hnone : nameFaults .space [s] = [] := (nameFaults_eq_nil_iff _ _).mpr (by simpa using hs)
  rw [inSpace_eq h (List.cons_ne_nil s []), hnone]
  rfl

/-! ## Namespaces -/

/-- The names of the inner block are looked at after those of the outer one. -/
theorem inSpace_append (h : scope.frame? = none) {outer inner : List String} (ho : outer ≠ [])
    (hi : inner ≠ []) (block : Scope → Drawing τ ν α) :
    scope.inSpace env (outer ++ inner) block =
      scope.inSpace env outer fun middle => middle.inSpace env inner block := by
  have hne : outer ++ inner ≠ [] := fun hnil => ho (List.append_eq_nil_iff.mp hnil).1
  have hmiddle : (space (scope.chain ++ outer)).frame? = none := rfl
  rw [inSpace_eq h hne, inSpace_eq h ho, inSpace_eq hmiddle hi, nameFaults_append, verdict_append,
    Drawing.ofExcept_bind, bind_assoc, chain, List.append_assoc]

/-! ## Resources -/

/-- A namespace that is a name takes no part in the checks of a resource. -/
theorem checkNames_resources_space {s : String} (hs : IsSegment s) (name : String)
    (rest : List String) :
    checkNames .resources (name :: s :: rest) = checkNames .resources (name :: rest) := by
  have hnone : demand (IsSegment s) (.invalidName .resources s) = [] :=
    (demand_eq_nil_iff _ _).mpr hs
  rw [checkNames_eq_verdict, checkNames_eq_verdict, nameFaults_cons, nameFaults_cons,
    nameFaults_cons, hnone, List.nil_append]

/-- The resource is the same one, whether its chain ends in its own namespace or in that of the
scope around it. -/
theorem declareResource_space (h : scope.frame? = none) {s : String} (hs : IsSegment s)
    (name : String) (options : ResourceOptions) :
    scope.declareResource name { options with space := some s } =
      (space (scope.chain ++ [s])).declareResource name { options with space := none } := by
  have hnames := checkNames_resources_space hs name
    (options.controller.toList ++ options.param.toList)
  have hframe : (space (scope.chain ++ [s])).frame? = none := rfl
  have hchain : (space (scope.chain ++ [s])).chain = scope.chain ++ [s] := rfl
  unfold declareResource
  simp only [Option.toList_some, Option.toList_none, List.nil_append, List.append_nil,
    List.cons_append, hnames, h, hframe, hchain]

theorem inResource_space (h : scope.frame? = none) {s : String} (hs : IsSegment s) (name : String)
    (options : ResourceOptions) (block : Scope → Drawing τ ν α) :
    scope.inResource env name { options with space := some s } block =
      scope.inSpace env [s] fun inner =>
        inner.inResource env name { options with space := none } block := by
  rw [inSpace_singleton h hs]
  unfold inResource enterResource
  rw [declareResource_space h hs]

/-! ## Targets -/

/-- The namespace of a target that is otherwise well formed is all there is to refuse. -/
theorem faults_space {target : Target} (hc : IsHalf target.controller) (ha : IsHalf target.action)
    (space : Option String) :
    TargetSpec.faults (.full { target with space }) = nameFaults .space space.toList := by
  rw [TargetSpec.faults, (demand_eq_nil_iff _ _).mpr ⟨hc, ha⟩, List.nil_append]

theorem register_space (h : scope.frame? = none) (verb : Verb) (path : String) (target : Target)
    (hm : target.mount = none) (s : String) :
    register env scope.chain (scope.stem env.settings) verb path { target with space := some s } =
      register env (scope.chain ++ [s]) ((space (scope.chain ++ [s])).stem env.settings) verb path
        { target with space := none } := by
  have hstem : (space (scope.chain ++ [s])).stem env.settings =
      scope.stem env.settings ++ "/" ++ s := by
    rw [stem_of_frame?_eq_none h]
    exact Path.ofChain_append_singleton scope.chain s
  unfold register
  simp only [Target.extend, Target.describe, hm, hstem, Option.toList_some, Option.toList_none,
    List.append_nil]

theorem route_space (h : scope.frame? = none) (verb : Verb) (path : String) {target : Target}
    (hc : IsHalf target.controller) (ha : IsHalf target.action) (hm : target.mount = none)
    (s : String) :
    scope.route env verb path (.full { target with space := some s }) =
      scope.inSpace env [s] fun inner =>
        inner.route env verb path (.full { target with space := none }) := by
  rw [inSpace_eq h (List.cons_ne_nil s [])]
  unfold route
  rw [TargetSpec.resolve_eq, TargetSpec.resolve_eq, faults_space hc ha, faults_space hc ha, h,
    Option.toList_some]
  cases nameFaults .space [s] with
  | cons f rest => rfl
  | nil => exact register_space h verb path target hm s

end Scope

/-- Outside resources, whatever the settings, the table and the block: a namespace of several
names is a namespace inside a namespace, invalid names included; the namespace option of a
resource, where it is a name, is a namespace around the resource; and the namespace of a target
without mount, be it a name or not, is a namespace around the route. Both sides have the same
outcome, leave the same table and take the same notes. -/
theorem Scope.extensions_agree (env : Surroundings τ η ν) (scope : Scope)
    (h : scope.frame? = none) :
    (∀ (outer inner : List String) (block : Scope → Drawing τ ν α), outer ≠ [] → inner ≠ [] →
      scope.inSpace env (outer ++ inner) block =
        scope.inSpace env outer fun middle => middle.inSpace env inner block) ∧
    (∀ (s name : String) (options : ResourceOptions) (block : Scope → Drawing τ ν α),
      IsSegment s →
      scope.inResource env name { options with space := some s } block =
        scope.inSpace env [s] fun inner =>
          inner.inResource env name { options with space := none } block) ∧
    (∀ (verb : Verb) (path s : String) (target : Target),
      IsHalf target.controller → IsHalf target.action → target.mount = none →
      scope.route env verb path (.full { target with space := some s }) =
        scope.inSpace env [s] fun inner =>
          inner.route env verb path (.full { target with space := none })) := by
  refine ⟨?namespaces, ?resources, ?targets⟩
  case namespaces =>
    intro outer inner block ho hi
    exact inSpace_append h ho hi block
  case resources =>
    intro s name options block hs
    exact inResource_space h hs name options block
  case targets =>
    intro verb path s target hc ha hm
    exact route_space h verb path hc ha hm s

/-- What a block of one route leaves under `admin`, with a name that is none, with a resource, and
with a target. -/
theorem Scope.extensions_agree_admin :
    let env : Surroundings RouteTable Dispatch Event := ⟨.default, RouteTable.sink, id⟩
    let ping : Scope → Drawing RouteTable Event Unit := fun inner =>
      inner.route env .get "ping" (.shorthand "status#ping")
    ((space ["admin"]).inSpace env (["v1"] ++ ["a b", "c/d"]) ping {}).outcome =
        .error (.invalidName .space "a b") ∧
      ((space ["admin"]).inSpace env ["v1"] (fun inner =>
        inner.inSpace env ["a b", "c/d"] ping) {}).outcome = .error (.invalidName .space "a b") ∧
      ((space ["admin"]).inSpace env ["v1"] (fun inner =>
        inner.inResource env "posts" { keep := some [.index] } ping) {}).table.paths =
          ["/admin/v1/posts"] ∧
      ((space ["admin"]).inSpace env ["v1"] (fun inner =>
        inner.route env .get "ping" (.full { controller := "status", action := "ping" }))
          {}).table.paths = ["/admin/v1/ping"] := by
  intro env ping
  obtain ⟨hspaces, hresource, htarget⟩ :=
    extensions_agree (α := Unit) env (space ["admin"]) rfl
  have hhalves : IsHalf "status" ∧ IsHalf "ping" := by decide
  refine ⟨?_, ?_, ?_, ?_⟩
  · rw [hspaces _ _ _ (by decide) (by decide)]
    rfl
  · rw [← hspaces _ _ _ (by decide) (by decide)]
    rfl
  · rw [← hresource "v1" "posts" { keep := some [.index] } ping (by decide)]
    decide
  · rw [← htarget .get "ping" "v1" { controller := "status", action := "ping" } hhalves.1 hhalves.2
      rfl]
    decide

end RoutePlan
