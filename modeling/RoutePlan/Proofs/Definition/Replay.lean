import RoutePlan.Proofs.Definition.Placement

/-! # Replays

Replaying a definition amounts to going through its occurrences in document order: the first
fault among them is the outcome, and the registrations are those of the occurrences before it
with what is left of the faulty one. Each operation of a scope has a lemma that says so of
its own occurrence, and the induction over the declarations puts them together.
-/

namespace RoutePlan

open Drawing Nesting

variable {τ η ν : Type} {env : Surroundings τ η ν} {around : Nesting} {scope : Scope}
  {inner : ResourceScope}

theorem madeBy_nil (settings : Settings) : madeBy settings [] = [] := rfl

theorem madeBy_faultless {settings : Settings} {o : Occurrence} (ho : o.faults = [])
    (os : List Occurrence) :
    madeBy settings (o :: os) = o.registrations settings ++ madeBy settings os := by
  rw [madeBy, untilFault, if_pos ho, List.flatMap_cons]
  rfl

theorem madeBy_faulty {settings : Settings} {o : Occurrence} {f : Fault} {rest : List Fault}
    (ho : o.faults = f :: rest) (os : List Occurrence) :
    madeBy settings (o :: os) = o.salvage.flatMap (·.registrations settings) := by
  rw [madeBy, untilFault, if_neg (by rw [ho]; simp)]

theorem madeBy_append_faultless {settings : Settings} {first : List Occurrence}
    (second : List Occurrence) (h : faultsOf first = []) :
    madeBy settings (first ++ second) = madeBy settings first ++ madeBy settings second := by
  simp only [madeBy, untilFault_append_of_faultless second h, untilFault_of_faultless h,
    List.flatMap_append]

/-! ## Direct verbs -/

theorem Scope.makes_route (h : Describes env.settings around scope) (verb : Verb)
    (path : String) {target : TargetSpec} (ht : target.faults = []) :
    Makes env.sink (scope.route env verb path target) (.ok ())
      (Occurrence.registrations env.settings ⟨around, .route verb path target⟩) := by
  apply Makes.check_ok (target.resolve_eq_ok ht)
  cases hr : around.resource? with
  | none =>
    have hstem : scope.stem env.settings = Path.ofChain around.chain := by
      rw [h.path, path_eq_ofChain hr]
    rw [h.frame?_eq_none hr]
    simp only [Occurrence.registrations, hr]
    rw [← Target.extend_eq, ← hstem, ← h.chain]
    exact Makes.register env scope.chain (scope.stem env.settings) verb path target.reading
  | some r =>
    obtain ⟨inner, rfl, -, -⟩ := h.exists_resource hr
    simp only [Occurrence.registrations, hr]
    exact Makes.note _

theorem Scope.fails_route (verb : Verb) (path : String) {target : TargetSpec} {f : Fault}
    {rest : List Fault} (ht : target.faults = f :: rest) :
    Makes env.sink (scope.route env verb path target) (.error f) [] :=
  Makes.check_error (target.resolve_eq_error f rest ht)

/-! ## Blocks -/

theorem Scope.makes_enterSpace (h : Describes env.settings around scope) (names : List String)
    (hf : (⟨around, .space names⟩ : Occurrence).faults = []) :
    ∃ inner, Makes env.sink (scope.enterSpace env names) (.ok inner) [] ∧
      Describes env.settings (around.space names) inner := by
  cases hr : around.resource? with
  | none =>
    have hfaults : (if names = [] then [Fault.invalidName .space ""]
        else nameFaults .space names) = [] := by
      simpa [Occurrence.faults, hr] using hf
    refine ⟨.space (scope.chain ++ names), ?_, h.space_outside names hr⟩
    by_cases hn : names = []
    · rw [if_pos hn] at hfaults
      cases hfaults
    · rw [if_neg hn] at hfaults
      unfold Scope.enterSpace
      rw [h.frame?_eq_none hr]
      simp only [List.isEmpty_iff, hn, if_false]
      rw [checkNames_eq_verdict, hfaults]
      exact Makes.check_ok rfl (Makes.done _)
  | some r =>
    obtain ⟨inner, rfl, -, -⟩ := h.exists_resource hr
    refine ⟨.resource inner, ?_, h.space_inside names (by simp [hr])⟩
    exact Makes.bind_ok (Makes.note _) (Makes.done _)

theorem Scope.fails_enterSpace (h : Describes env.settings around scope) (names : List String)
    {f : Fault} {rest : List Fault}
    (hf : (⟨around, .space names⟩ : Occurrence).faults = f :: rest) :
    Makes env.sink (scope.enterSpace env names) (.error f) [] := by
  cases hr : around.resource? with
  | none =>
    have hfaults : (if names = [] then [Fault.invalidName .space ""]
        else nameFaults .space names) = f :: rest := by
      simpa [Occurrence.faults, hr] using hf
    unfold Scope.enterSpace
    rw [h.frame?_eq_none hr]
    by_cases hn : names = []
    · rw [if_pos hn] at hfaults
      simp only [List.isEmpty_iff, hn, if_true]
      cases hfaults
      exact Makes.ofExcept (.error _)
    · rw [if_neg hn] at hfaults
      simp only [List.isEmpty_iff, hn, if_false]
      rw [checkNames_eq_verdict, hfaults]
      exact Makes.check_error rfl
  | some r =>
    simp [Occurrence.faults, hr] at hf

/-! ## Resources -/

/-- A target of a controller and an action alone leaves the path to the scope. -/
theorem makes_plain (env : Surroundings τ η ν) (chain : List String) (stem : String) (verb : Verb)
    (path controller action : String) :
    Makes env.sink (register env chain stem verb path { controller, action }) (.ok ())
      [⟨verb, Path.join stem path, ⟨controller, action, chain⟩⟩] := by
  have hregister := Makes.register env chain stem verb path { controller, action }
  rw [Target.extend_eq] at hregister
  simp only [Target.detour, Target.describe, String.append_empty, Option.toList_none,
    List.append_nil] at hregister
  exact hregister

/-- The conventional routes are at the resource's path, with what each action adds. -/
theorem Scope.makes_expand (h : Path.IsClosed (inner.frame.collectionPath env.settings))
    (actions : List Action) :
    Makes env.sink (Scope.expand env inner actions) (.ok ()) (actions.map fun a =>
      ⟨a.verb, inner.frame.collectionPath env.settings ++ a.suffix env.settings,
        ⟨inner.frame.controller, a.name, inner.chain⟩⟩) := by
  induction actions with
  | nil => exact Makes.done ()
  | cons a rest ih =>
    have hregister := makes_plain env inner.chain (inner.frame.collectionPath env.settings) a.verb
      (a.suffix env.settings) inner.frame.controller a.name
    rw [Path.join_suffix env.settings a h] at hregister
    exact Makes.bind_ok hregister ih

/-- The scope of a resource tells its registrations. -/
theorem Occurrence.registrations_resources (h : Describes env.settings around scope)
    (r : ResourceSpec) (hname : IsSegment r.name) :
    registrations env.settings ⟨around, .resources r⟩ =
      (scope.resourceAt r).frame.resource.allowed.map fun a =>
        ⟨a.verb, (scope.resourceAt r).frame.collectionPath env.settings ++ a.suffix env.settings,
          ⟨(scope.resourceAt r).frame.controller, a.name, (scope.resourceAt r).chain⟩⟩ := by
  have hallowed : (scope.resourceAt r).frame.resource.allowed = r.allowed := by
    rw [Scope.resourceAt, Scope.resource_declared]
    exact r.allowed_reading
  have hcontroller : (scope.resourceAt r).frame.controller = r.controller := by
    rw [Frame.controller, Scope.resourceAt, Scope.resource_declared]
    rfl
  have hchain : (scope.resourceAt r).chain = (around.resources r).chain :=
    (h.resources r hname).chain
  rw [hallowed, h.collectionPath_resourceAt r, hcontroller, hchain]
  rfl

theorem Scope.makes_enterResource (h : Describes env.settings around scope) {r : ResourceSpec}
    (hr : r.faults = []) :
    r.options.resolve = .ok r.options.reading ∧
      Makes env.sink (scope.enterResource env r.name r.options.reading)
        (.ok (.resource (scope.resourceAt r)))
        (Occurrence.registrations env.settings ⟨around, .resources r⟩) ∧
      Describes env.settings (around.resources r) (.resource (scope.resourceAt r)) := by
  obtain ⟨hactions, hnames⟩ := List.append_eq_nil_iff.mp hr
  have hname : IsSegment r.name :=
    (nameFaults_eq_nil_iff _ _).mp hnames r.name (by simp [ResourceSpec.names])
  have hinner := h.resources r hname
  refine ⟨?_, ?_, hinner⟩
  · rw [OptionSpec.resolve_eq, hactions]
    rfl
  · have hdeclare : scope.declareResource r.name r.options.reading =
        .ok (scope.resourceAt r) := by
      rw [Scope.declareResource_eq, hnames]
      rfl
    have hclosed : Path.IsClosed ((scope.resourceAt r).frame.collectionPath env.settings) := by
      rw [h.collectionPath_resourceAt r]
      exact hinner.closed rfl
    rw [Occurrence.registrations_resources h r hname, ← List.append_nil (List.map _ _)]
    exact Makes.check_ok hdeclare (Makes.bind_ok (Scope.makes_expand hclosed _) (Makes.done _))

theorem Scope.fails_resources {next : Scope → Drawing τ ν Unit} {r : ResourceSpec} {f : Fault}
    {rest : List Fault} (hr : r.faults = f :: rest) :
    Makes env.sink (do
      let options ← Drawing.ofExcept r.options.resolve
      let inner ← scope.enterResource env r.name options
      next inner) (.error f) [] := by
  rw [OptionSpec.resolve_eq]
  cases hactions : actionFaults r.options.actionNames with
  | cons g more =>
    rw [ResourceSpec.faults, hactions, List.cons_append, List.cons.injEq] at hr
    rw [← hr.1]
    exact Makes.check_error rfl
  | nil =>
    rw [ResourceSpec.faults, hactions, List.nil_append] at hr
    apply Makes.check_ok rfl
    apply Makes.bind_error
    unfold Scope.enterResource
    rw [Scope.declareResource_eq, hr]
    exact Makes.check_error rfl

/-! ## Member and collection actions -/

theorem ActionKind.isClosed_segment (settings : Settings) {base : String}
    (h : Path.IsClosed base) (kind : ActionKind) :
    Path.IsClosed (base ++ kind.segment settings) := by
  cases kind with
  | member => exact (Path.isClosed_idSegment settings "id").append base
  | collection => rwa [segment, String.append_empty]

theorem Scope.enterActions_eq_error (h : scope.frame? = none) (kind : ActionKind) :
    scope.enterActions kind = .error (.misplaced kind.construct) := by
  cases scope with
  | root => rfl
  | space chain => rfl
  | resource outer => cases h

theorem ActionScope.stem_eq (h : Describes env.settings around (.resource inner))
    (kind : ActionKind) :
    ActionScope.stem env.settings ⟨inner, kind⟩ =
      around.path env.settings ++ kind.segment env.settings := by
  have hpath : inner.frame.collectionPath env.settings = around.path env.settings := h.path
  cases kind with
  | member =>
    rw [← hpath]
    rfl
  | collection =>
    rw [← hpath, ActionKind.segment, String.append_empty]
    rfl

theorem ActionScope.makes_actions {actionScope : ActionScope}
    (h : Path.IsClosed (actionScope.stem env.settings)) (actions : List (Verb × String)) :
    Makes env.sink (actionScope.actions env actions)
      (verdict (nameFaults actionScope.kind.construct (actions.map (·.2))))
      ((Occurrence.namedActions actions).map fun a =>
        ⟨a.1, actionScope.stem env.settings ++ "/" ++ a.2,
          ⟨actionScope.frame.controller, a.2, actionScope.chain⟩⟩) := by
  induction actions with
  | nil => exact Makes.done ()
  | cons a rest ih =>
    obtain ⟨verb, name⟩ := a
    have hcheck := checkName_eq_verdict actionScope.kind.construct name
    rw [List.map_cons, nameFaults_cons, verdict_append]
    by_cases hname : IsSegment name
    · rw [demand, if_pos hname] at hcheck ⊢
      rw [Occurrence.namedActions_cons verb hname]
      have hregister := makes_plain env actionScope.chain (actionScope.stem env.settings)
        verb name actionScope.frame.controller name
      rw [Path.join_segment h hname] at hregister
      have haction : Makes env.sink (actionScope.action env verb name) (.ok ()) _ :=
        Makes.check_ok hcheck hregister
      exact Makes.bind_ok haction ih
    · rw [demand, if_neg hname] at hcheck ⊢
      rw [Occurrence.namedActions_cons_of_not verb hname]
      have haction : Makes env.sink (actionScope.action env verb name) (.error _) [] :=
        Makes.check_error hcheck
      exact Makes.bind_error haction

theorem Occurrence.faults_actions_inside {r : ResourceSpec} (hr : around.resource? = some r)
    (kind : ActionKind) (actions : List (Verb × String)) :
    (⟨around, .actions kind actions⟩ : Occurrence).faults =
      nameFaults kind.construct (actions.map (·.2)) := by
  simp [faults, demand, hr]

/-- A member or collection block in its place, where a faulty one keeps its first actions. -/
theorem madeBy_actions {settings : Settings} {r : ResourceSpec} (hr : around.resource? = some r)
    (kind : ActionKind) (actions : List (Verb × String)) :
    madeBy settings [⟨around, .actions kind actions⟩] =
      (Occurrence.namedActions actions).map fun a =>
        ⟨a.1, around.path settings ++ kind.segment settings ++ "/" ++ a.2,
          ⟨r.controller, a.2, around.chain⟩⟩ := by
  have hfaults := Occurrence.faults_actions_inside hr kind actions
  cases hf : nameFaults kind.construct (actions.map (·.2)) with
  | nil =>
    rw [hf] at hfaults
    rw [Occurrence.namedActions_eq_self ((nameFaults_eq_nil_iff _ _).mp hf),
      madeBy_faultless hfaults]
    simp [Occurrence.registrations, hr, madeBy, untilFault]
  | cons f rest =>
    rw [hf] at hfaults
    rw [madeBy_faulty hfaults]
    simp [Occurrence.registrations, Occurrence.salvage, hr]

theorem ActionScope.makes_block (h : Describes env.settings around (.resource inner))
    {r : ResourceSpec} (hr : around.resource? = some r)
    (hcontroller : inner.frame.controller = r.controller) (kind : ActionKind)
    (actions : List (Verb × String)) :
    Makes env.sink (ActionScope.actions env ⟨inner, kind⟩ actions)
      (verdict (faultsOf [⟨around, .actions kind actions⟩]))
      (madeBy env.settings [⟨around, .actions kind actions⟩]) := by
  have hclosed : Path.IsClosed (ActionScope.stem env.settings ⟨inner, kind⟩) := by
    rw [ActionScope.stem_eq h kind]
    exact kind.isClosed_segment env.settings (h.closed (by simp [hr]))
  have hmakes := ActionScope.makes_actions hclosed actions
  rw [ActionScope.stem_eq h kind, hcontroller,
    show inner.chain = around.chain from h.chain] at hmakes
  rw [faultsOf_singleton, Occurrence.faults_actions_inside hr, madeBy_actions hr]
  exact hmakes

/-! ## Whole definitions -/

/-- A block that opens adds the registrations of its own declaration to those inside. -/
theorem makes_block {sink : Sink τ η} {settings : Settings} {enter : Drawing τ ν Scope}
    {next : Scope → Drawing τ ν Unit} {o : Occurrence} {os : List Occurrence} {inner : Scope}
    (ho : o.faults = []) (henter : Makes sink enter (.ok inner) (o.registrations settings))
    (hnext : Makes sink (next inner) (verdict (faultsOf os)) (madeBy settings os)) :
    Makes sink (enter >>= next) (verdict (faultsOf (o :: os))) (madeBy settings (o :: os)) := by
  have hfaults : faultsOf (o :: os) = faultsOf os := by
    rw [faultsOf, List.flatMap_cons, ho]
    rfl
  rw [hfaults, madeBy_faultless ho]
  exact Makes.bind_ok henter hnext

/-- A declaration with a fault ends the step before it registers anything. -/
theorem makes_faulty {sink : Sink τ η} {settings : Settings} {step : Drawing τ ν Unit}
    {o : Occurrence} {f : Fault} {rest : List Fault} (ho : o.faults = f :: rest)
    (hsalvage : o.salvage = []) (hstep : Makes sink step (.error f) []) (os : List Occurrence) :
    Makes sink step (verdict (faultsOf (o :: os))) (madeBy settings (o :: os)) := by
  have hfaults : faultsOf (o :: os) = f :: (rest ++ faultsOf os) := by
    rw [faultsOf, List.flatMap_cons, ho]
    rfl
  rw [hfaults, madeBy_faulty ho, hsalvage]
  exact hstep

mutual

theorem Declaration.makes_replay {around : Nesting} {scope : Scope}
    (h : Describes env.settings around scope) (d : Declaration) :
    Makes env.sink (d.replay env scope) (verdict (faultsOf (d.occurrences around)))
      (madeBy env.settings (d.occurrences around)) := by
  -- The description of the scope is the invariant; a block that opens hands on a new one.
  cases d with
  | route verb path target =>
    rw [Declaration.replay, Scope.route_resolved]
    cases hf : (⟨around, .route verb path target⟩ : Occurrence).faults with
    | cons f rest => exact makes_faulty hf rfl (Scope.fails_route verb path hf) []
    | nil =>
      rw [Declaration.occurrences, faultsOf_singleton, hf, madeBy_faultless hf, madeBy_nil,
        List.append_nil]
      exact Scope.makes_route h verb path hf
  | space names block =>
    cases hf : (⟨around, .space names⟩ : Occurrence).faults with
    | cons f rest =>
      exact makes_faulty hf rfl (Makes.bind_error (Scope.fails_enterSpace h names hf)) _
    | nil =>
      obtain ⟨inner, henter, hinner⟩ := Scope.makes_enterSpace h names hf
      exact makes_block hf henter (makes_replayAll hinner block)
  | resources name options block =>
    cases hf : (⟨around, .resources ⟨name, options⟩⟩ : Occurrence).faults with
    | cons f rest => exact makes_faulty hf rfl (Scope.fails_resources hf) _
    | nil =>
      obtain ⟨hresolve, henter, hinner⟩ := Scope.makes_enterResource h hf
      exact Makes.check_ok hresolve (makes_block hf henter (makes_replayAll hinner block))
  | actions kind actions =>
    cases hr : around.resource? with
    | none =>
      have hf : (⟨around, .actions kind actions⟩ : Occurrence).faults =
          .misplaced kind.construct :: nameFaults kind.construct (actions.map (·.2)) := by
        simp [Occurrence.faults, demand, hr]
      have henter := Scope.enterActions_eq_error (h.frame?_eq_none hr) kind
      exact makes_faulty hf (by simp [Occurrence.salvage, hr]) (Makes.check_error henter) []
    | some r =>
      obtain ⟨inner, rfl, hcontroller, -⟩ := h.exists_resource hr
      exact Makes.check_ok rfl (ActionScope.makes_block h hr hcontroller kind actions)

theorem makes_replayAll {around : Nesting} {scope : Scope}
    (h : Describes env.settings around scope) (ds : List Declaration) :
    Makes env.sink (replayAll env scope ds) (verdict (faultsOf (occurrencesAll around ds)))
      (madeBy env.settings (occurrencesAll around ds)) := by
  cases ds with
  | nil => exact Makes.done ()
  | cons d rest =>
    have hd := d.makes_replay h
    have hrest := makes_replayAll h rest
    rw [occurrencesAll, faultsOf_append, verdict_append]
    cases hf : faultsOf (d.occurrences around) with
    | nil =>
      rw [hf] at hd
      rw [madeBy_append_faultless _ hf]
      exact Makes.bind_ok hd hrest
    | cons f more =>
      rw [hf] at hd
      rw [madeBy, untilFault_append_of_faulty _ (by rw [hf]; simp)]
      exact Makes.bind_error hd

end

namespace Definition

theorem makes_replay (env : Surroundings τ η ν) (d : Definition) :
    Makes env.sink (d.replay env .root) (verdict d.faults)
      (madeBy env.settings d.occurrences) :=
  makes_replayAll (Describes.root env.settings) d.declarations

/-- The routes of everything before the first fault, at whatever depth the fault stands. -/
theorem table_draw (settings : Settings) (d : Definition) :
    (d.draw settings).table = ⟨(madeBy settings d.occurrences).map Registration.route⟩ := by
  have htable := (makes_replay ⟨settings, RouteTable.sink, id⟩ d {}).2
  have hroutes := RouteTable.routes_enter {} (madeBy settings d.occurrences)
  rw [← htable, List.nil_append] at hroutes
  exact congrArg RouteTable.mk hroutes

theorem compile_eq (settings : Settings) (d : Definition) :
    (d.compile settings).1 = (verdict d.faults).map fun _ => (d.draw settings).table := by
  have houtcome : (d.draw settings).outcome = verdict d.faults :=
    (makes_replay ⟨settings, RouteTable.sink, id⟩ d {}).1
  rw [← houtcome]
  simp only [compile]
  cases h : (d.draw settings).outcome <;> rfl

theorem compile_eq_ok_iff (settings : Settings) (d : Definition) (table : RouteTable) :
    (d.compile settings).1 = .ok table ↔ d.faults = [] ∧ (d.draw settings).table = table := by
  rw [compile_eq]
  cases d.faults with
  | nil => simp [Except.map]
  | cons f rest => simp [Except.map]

theorem compile_eq_error_iff (settings : Settings) (d : Definition) (f : Fault) :
    (d.compile settings).1 = .error f ↔ d.faults.head? = some f := by
  rw [← verdict_eq_error_iff, compile_eq]
  cases verdict d.faults with
  | ok u => simp [Except.map]
  | error g => simp [Except.map]

end Definition
end RoutePlan
