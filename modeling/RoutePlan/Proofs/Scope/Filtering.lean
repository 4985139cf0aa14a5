import Mathlib.Data.List.Basic
import RoutePlan.Proofs.Scope.Addresses
import RoutePlan.Proofs.Scope.Extension

/-! # Chosen actions

The routes of a resource are made before its block is drawn, once its name and its options are
accepted, and none of them can fail. Which of the seven they are is for two lists of actions to
choose; one of them keeps what the other drops. A resource that is refused makes no route at all.
-/

namespace RoutePlan

/-! ## Splitting a list -/

section

variable {α β : Type} {whole left right : List α}

/-- Two subsequences without a common item that are merged to the whole. -/
structure SplitInto (whole left right : List α) : Prop where
  sublist_left : left.Sublist whole
  sublist_right : right.Sublist whole
  disjoint : left.Disjoint right
  merged : (left ++ right).Perm whole

theorem SplitInto.filter (p : α → Bool) (whole : List α) :
    SplitInto whole (whole.filter p) (whole.filter fun a => !p a) where
  sublist_left := List.filter_sublist
  sublist_right := List.filter_sublist
  disjoint a hl hr := by
    have hkept := (List.mem_filter.mp hl).2
    have hdropped := (List.mem_filter.mp hr).2
    rw [hkept] at hdropped
    cases hdropped
  merged := List.filter_append_perm p whole

theorem SplitInto.map {f : α → β} (hf : Function.Injective f) (h : SplitInto whole left right) :
    SplitInto (whole.map f) (left.map f) (right.map f) where
  sublist_left := h.sublist_left.map f
  sublist_right := h.sublist_right.map f
  disjoint := List.disjoint_map hf h.disjoint
  merged := by
    rw [← List.map_append]
    exact h.merged.map f

end

namespace Action

/-- The actions of the list, in the fixed order and each of them once. -/
def among (actions : List Action) : List Action := all.filter (· ∈ actions)

/-- The other actions. -/
def besides (actions : List Action) : List Action := all.filter (· ∉ actions)

theorem among_congr {actions others : List Action} (h : ∀ a, a ∈ others ↔ a ∈ actions) :
    among others = among actions := by
  simp only [among, h]

theorem besides_congr {actions others : List Action} (h : ∀ a, a ∈ others ↔ a ∈ actions) :
    besides others = besides actions := by
  simp only [besides, h]

theorem splitInto_among_besides (actions : List Action) :
    SplitInto all (among actions) (besides actions) := by
  have hsplit := SplitInto.filter (fun a => decide (a ∈ actions)) all
  simpa only [among, besides, decide_not] using hsplit

theorem choose_keep (kept : List Action) (drop : Option (List Action)) :
    choose (some kept) drop = among kept := by
  simp [choose, among]

theorem choose_drop (dropped : List Action) : choose none (some dropped) = besides dropped := by
  simp [choose, besides]

end Action

/-! ## Refused and declared resources -/

namespace Scope

variable {settings : Settings} {scope : Scope} {name : String} {options : ResourceOptions}

/-- Whatever the block and whoever keeps the table, the resource ends in the fault; it leaves the
table as it was and reports nothing. -/
def Refuses (settings : Settings) (scope : Scope) (name : String) (options : ResourceOptions)
    (fault : Fault) : Prop :=
  ∀ (τ η ν α : Type) (sink : Sink τ η) (report : Event → ν) (block : Scope → Drawing τ ν α)
    (table : τ),
    scope.inResource ⟨settings, sink, report⟩ name options block table = ⟨.error fault, table, []⟩

/-- Whatever the block and whoever keeps the table, the resource makes these routes and reports
them. Then the block is drawn on the table that has them; the outcome is the block's. -/
def Expands (settings : Settings) (scope : Scope) (name : String) (options : ResourceOptions)
    (made : List Registration) : Prop :=
  ∃ inner : Scope, ∀ (τ η ν α : Type) (sink : Sink τ η) (report : Event → ν)
    (block : Scope → Drawing τ ν α) (table : τ),
    scope.inResource ⟨settings, sink, report⟩ name options block table =
      let drawn := block inner (sink.enter table made)
      ⟨drawn.outcome, drawn.table,
        made.map (fun r => report (.registered r.verb r.path r.target)) ++ drawn.notes⟩

theorem refuses_of_find? (settings : Settings) (scope : Scope) {v : String}
    (h : (options.names name).find? (fun s => ¬IsSegment s) = some v) :
    scope.Refuses settings name options (.invalidName .resources v) := by
  intro τ η ν α sink report block table
  have hverdict : verdict (nameFaults .resources (options.names name)) =
      .error (.invalidName .resources v) := by
    rw [verdict_eq_error_iff, head?_nameFaults, h]
    rfl
  rw [inResource, enterResource, declareResource_eq_verdict, hverdict]
  rfl

/-- The route of a conventional action of the resource, allowed or not. -/
def conventional (settings : Settings) (scope : Scope) (name : String) (options : ResourceOptions)
    (a : Action) : Registration :=
  (Origin.conventional (scope.declared name options) a).registration settings

theorem action_conventional (a : Action) :
    (scope.conventional settings name options a).target.action = a.name := rfl

theorem conventional_injective :
    Function.Injective (scope.conventional settings name options) := by
  intro a b h
  have haction := congrArg (fun r => r.target.action) h
  exact Action.name_injective haction

/-- The choice of actions takes no part in what the routes are. -/
theorem conventional_filters (settings : Settings) (scope : Scope) (name : String)
    (options : ResourceOptions) (keep drop : Option (List Action)) :
    scope.conventional settings name { options with keep, drop } =
      scope.conventional settings name options := by
  funext a
  unfold conventional declared
  cases scope.frame? <;> rfl

theorem resourceCourse_eq (h : ∀ s ∈ options.names name, IsSegment s) :
    scope.resourceCourse name options =
      ⟨.ok (.resource (scope.declared name options)),
        expansion (scope.declared name options) options.allowed⟩ := by
  have hnone : nameFaults .resources (options.names name) = [] := (nameFaults_eq_nil_iff _ _).mpr h
  have hallowed : (scope.declared name options).frame.resource.allowed = options.allowed := by
    rw [resource_declared]
    rfl
  rw [resourceCourse, declareResource_eq_verdict, hnone, ← hallowed]
  rfl

theorem expands_of_names (settings : Settings) (scope : Scope)
    (h : ∀ s ∈ options.names name, IsSegment s) :
    scope.Expands settings name options
      (options.allowed.map (scope.conventional settings name options)) := by
  refine ⟨.resource (scope.declared name options), ?_⟩
  intro τ η ν α sink report block table
  -- What is registered and what is reported are two readings of the deeds of one course.
  have henter := Course.perform_act ⟨settings, sink, report⟩ (scope.resourceCourse name options)
    table
  rw [← enterResource_eq_perform, resourceCourse_eq h, origins_expansion, List.map_map] at henter
  rw [inResource, Drawing.bind_of_ok (congrArg Drawn.outcome henter), henter]
  simp only [expansion, List.map_map]
  rfl

/-! ## Filters -/

/-- In any scope, under any settings. The first of the name, the namespace, the controller and the
parameter that is no segment is what the resource is refused for, before anything else happens.
With segments only, the routes come before the block and the outcome is the block's; without lists
of actions they are the routes of all seven actions. Of these a list to keep leaves the routes of
its actions, whatever is to be dropped, and a list to drop leaves the others. So the two split the
seven, and neither order nor repetition in the list makes a difference. -/
theorem filters_partition (settings : Settings) (scope : Scope) (name : String)
    (options : ResourceOptions) :
    (∀ v, (options.names name).find? (fun s => ¬IsSegment s) = some v →
      scope.Refuses settings name options (.invalidName .resources v)) ∧
    ((∀ s ∈ options.names name, IsSegment s) →
      ∃ made : Action → Registration, (∀ a, (made a).target.action = a.name) ∧
        scope.Expands settings name options (options.allowed.map made) ∧
        scope.Expands settings name { options with keep := none, drop := none }
          (Action.all.map made) ∧
        ∀ listed : List Action,
          let kept := (Action.among listed).map made
          let rest := (Action.besides listed).map made
          SplitInto (Action.all.map made) kept rest ∧
            ∀ others : List Action, (∀ a, a ∈ others ↔ a ∈ listed) →
              (∀ drop,
                scope.Expands settings name { options with keep := some others, drop } kept) ∧
                scope.Expands settings name { options with keep := none, drop := some others }
                  rest) := by
  refine ⟨fun v hv => refuses_of_find? settings scope hv, fun hnames => ?_⟩
  let made := scope.conventional settings name options
  have hexpands (keep drop : Option (List Action)) :
      scope.Expands settings name { options with keep, drop }
        ((Action.choose keep drop).map made) := by
    have hchosen : scope.Expands settings name { options with keep, drop }
        ((Action.choose keep drop).map
          (scope.conventional settings name { options with keep, drop })) :=
      expands_of_names settings scope hnames
    rwa [conventional_filters] at hchosen
  refine ⟨made, action_conventional, hexpands options.keep options.drop, hexpands none none, ?_⟩
  intro listed kept rest
  refine ⟨(Action.splitInto_among_besides listed).map conventional_injective, fun others h => ?_⟩
  have hkept : kept = (Action.among others).map made := by rw [Action.among_congr h]
  have hrest : rest = (Action.besides others).map made := by rw [Action.besides_congr h]
  rw [hkept, hrest, ← Action.choose_drop]
  refine ⟨fun drop => ?_, hexpands none (some others)⟩
  rw [← Action.choose_keep others drop]
  exact hexpands (some others) drop

/-- Inside a resource, with a list that repeats an action, and around a block that fails. Where all
of its options are wrong, the namespace of the resource is the one to be named. -/
theorem filters_partition_comments :
    let env : Surroundings RouteTable Dispatch Event := ⟨.default, RouteTable.sink, id⟩
    let scope : Scope := .resource ⟨[], .top ⟨"posts", {}, []⟩⟩
    let block : Scope → Drawing RouteTable Event Unit := fun _ => Drawing.fail (.unknownVerb "link")
    let listed : List Action := [.destroy, .index, .destroy]
    let kept :=
      scope.inResource env "comments" { keep := some listed, drop := some listed } block {}
    let rest := scope.inResource env "comments" { drop := some listed } block {}
    scope.inResource env "comments"
        { space := some "a b", controller := some "", param := some "c/d" } block {} =
        ⟨.error (.invalidName .resources "a b"), {}, []⟩ ∧
      kept.outcome = .error (.unknownVerb "link") ∧
      kept.table.routes.map Route.action = ["index", "destroy"] ∧
      rest.outcome = .error (.unknownVerb "link") ∧
      rest.table.routes.map Route.action = ["show", "new", "create", "edit", "update"] := by
  intro env scope block listed kept rest
  have hrefuses := (filters_partition .default scope "comments"
    { space := some "a b", controller := some "", param := some "c/d" }).1 "a b" (by decide)
  obtain ⟨made, hmade, -, -, hfilters⟩ :=
    (filters_partition .default scope "comments" {}).2 (by decide)
  obtain ⟨hkeep, ⟨_, hrest⟩⟩ := (hfilters listed).2 listed fun _ => Iff.rfl
  obtain ⟨_, hkept⟩ := hkeep (some listed)
  have hactions (actions : List Action) :
      ((RouteTable.sink.enter {} (actions.map made)).routes.map Route.action) =
        actions.map Action.name := by
    rw [RouteTable.routes_enter, List.nil_append, List.map_map, List.map_map]
    exact List.map_congr_left fun a _ => hmade a
  have hkept := hkept RouteTable Dispatch Event Unit RouteTable.sink id block {}
  have hrest := hrest RouteTable Dispatch Event Unit RouteTable.sink id block {}
  refine ⟨hrefuses _ _ _ _ _ _ block {}, ?_, ?_, ?_, ?_⟩
  · exact congrArg Drawn.outcome hkept
  · rw [congrArg Drawn.table hkept]
    exact (hactions _).trans (by decide)
  · exact congrArg Drawn.outcome hrest
  · rw [congrArg Drawn.table hrest]
    exact (hactions _).trans (by decide)

end Scope
end RoutePlan
