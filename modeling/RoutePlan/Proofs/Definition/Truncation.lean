import RoutePlan.Proofs.Definition.Replay

/-! # Truncated definitions

A definition with a fault can be cut right before it: the blocks around the fault stay, and
everything from the fault on goes. What a failed pass leaves in the table is what the cut
definition compiles to.
-/

namespace RoutePlan

open Occurrence (namedActions)

mutual

/-- What is left of a declaration with a fault in it. A block whose own declaration is in
order stays, with what its block holds before the fault. -/
def Declaration.cut (around : Nesting) : Declaration → List Declaration
  | .route .. => []
  | .space names block =>
    if (⟨around, .space names⟩ : Occurrence).faults = []
    then [.space names (cutAll (around.space names) block)] else []
  | .resources name options block =>
    if (⟨around, .resources ⟨name, options⟩⟩ : Occurrence).faults = []
    then [.resources name options (cutAll (around.resources ⟨name, options⟩) block)] else []
  | .actions kind actions =>
    if around.resource?.isSome then [.actions kind (namedActions actions)] else []

/-- The declarations before the first with a fault in it, and what is left of that one. -/
def cutAll (around : Nesting) : List Declaration → List Declaration
  | [] => []
  | d :: rest =>
    if faultsOf (d.occurrences around) = [] then d :: cutAll around rest else d.cut around

end

def Definition.cut (d : Definition) : Definition := ⟨cutAll .root d.declarations⟩

theorem occurrencesAll_singleton (around : Nesting) (d : Declaration) :
    occurrencesAll around [d] = d.occurrences around := by
  rw [occurrencesAll, occurrencesAll, List.append_nil]

theorem untilFault_cons_of_faulty {o : Occurrence} (os : List Occurrence) (h : o.faults ≠ []) :
    untilFault (o :: os) = o.salvage := by
  rw [untilFault, if_neg h]

mutual

/-- Cutting the tree cuts the list of its occurrences. -/
theorem Declaration.occurrences_cut (around : Nesting) (d : Declaration)
    (h : faultsOf (d.occurrences around) ≠ []) :
    occurrencesAll around (d.cut around) = untilFault (d.occurrences around) := by
  -- A block may be in order itself and hold the fault, so its own faults are asked for first.
  cases d with
  | route verb path target =>
    rw [Declaration.occurrences, faultsOf_singleton] at h
    rw [Declaration.occurrences, untilFault_cons_of_faulty _ h]
    rfl
  | space names block =>
    rw [Declaration.cut, Declaration.occurrences, untilFault]
    by_cases hf : (⟨around, .space names⟩ : Occurrence).faults = []
    · rw [if_pos hf, if_pos hf, occurrencesAll_singleton, Declaration.occurrences,
        occurrencesAll_cutAll]
    · rw [if_neg hf, if_neg hf]
      rfl
  | resources name options block =>
    rw [Declaration.cut, Declaration.occurrences, untilFault]
    by_cases hf : (⟨around, .resources ⟨name, options⟩⟩ : Occurrence).faults = []
    · rw [if_pos hf, if_pos hf, occurrencesAll_singleton, Declaration.occurrences,
        occurrencesAll_cutAll]
    · rw [if_neg hf, if_neg hf]
      rfl
  | actions kind actions =>
    rw [Declaration.occurrences, faultsOf_singleton] at h
    rw [Declaration.cut, Declaration.occurrences, untilFault_cons_of_faulty _ h]
    cases hr : around.resource? with
    | none => simp [Occurrence.salvage, hr, occurrencesAll]
    | some r => simp [Occurrence.salvage, hr, occurrencesAll, Declaration.occurrences]

theorem occurrencesAll_cutAll (around : Nesting) (ds : List Declaration) :
    occurrencesAll around (cutAll around ds) = untilFault (occurrencesAll around ds) := by
  cases ds with
  | nil => rfl
  | cons d rest =>
    rw [cutAll, occurrencesAll]
    by_cases hf : faultsOf (d.occurrences around) = []
    · rw [if_pos hf, untilFault_append_of_faultless _ hf, occurrencesAll,
        occurrencesAll_cutAll around rest]
    · rw [if_neg hf, untilFault_append_of_faulty _ hf, d.occurrences_cut around hf]

end

theorem Definition.occurrences_cut (d : Definition) :
    d.cut.occurrences = untilFault d.occurrences :=
  occurrencesAll_cutAll .root d.declarations

/-- What a faulty declaration amounts to has no fault left. -/
theorem Occurrence.faultsOf_salvage (o : Occurrence) : faultsOf o.salvage = [] := by
  unfold salvage
  split
  · rename_i kind actions r hhead hr
    have hnames := (nameFaults_eq_nil_iff kind.construct _).mpr
      (isSegment_of_mem_namedActions actions)
    rw [faultsOf_singleton]
    simp [faults, demand, hr, hnames]
  · rfl

theorem faultsOf_untilFault (os : List Occurrence) : faultsOf (untilFault os) = [] := by
  induction os with
  | nil => rfl
  | cons o rest ih =>
    rw [untilFault]
    by_cases ho : o.faults = []
    · rw [if_pos ho]
      exact List.append_eq_nil_iff.mpr ⟨ho, ih⟩
    · rw [if_neg ho]
      exact o.faultsOf_salvage

/-- The first fault has a place, and all before it is in order. -/
theorem exists_first_fault {os : List Occurrence} {f : Fault} (h : (faultsOf os).head? = some f) :
    ∃ before failing after, os = before ++ failing :: after ∧ (∀ o ∈ before, o.faults = []) ∧
      failing.faults.head? = some f ∧ untilFault os = before ++ failing.salvage := by
  induction os with
  | nil => cases h
  | cons o rest ih =>
    by_cases ho : o.faults = []
    · have hrest : (faultsOf rest).head? = some f := by
        rwa [faultsOf, List.flatMap_cons, ho] at h
      obtain ⟨before, failing, after, rfl, hbefore, hf, huntil⟩ := ih hrest
      refine ⟨o :: before, failing, after, rfl, ?_, hf, ?_⟩
      · exact List.forall_mem_cons.mpr ⟨ho, hbefore⟩
      · rw [untilFault, if_pos ho, huntil, List.cons_append]
    · refine ⟨[], o, rest, rfl, fun _ hm => absurd hm List.not_mem_nil, ?_, ?_⟩
      · rw [faultsOf, List.flatMap_cons] at h
        cases hfaults : o.faults with
        | nil => exact absurd hfaults ho
        | cons g more => rwa [hfaults] at h
      · rw [untilFault, if_neg ho, List.nil_append]

namespace Definition

/-- A failed pass leaves what the definition cut before the fault compiles to: the routes of
all declarations before the one that fails, and of that one the actions it salvages. -/
theorem compile_cut (settings : Settings) (d : Definition) (f : Fault)
    (h : (d.compile settings).1 = .error f) :
    (d.cut.compile settings).1 = .ok (d.draw settings).table ∧
      ∃ before failing after, d.occurrences = before ++ failing :: after ∧
        (∀ o ∈ before, o.faults = []) ∧ failing.faults.head? = some f ∧
        d.cut.occurrences = before ++ failing.salvage ∧
        (d.draw settings).table.routes =
          (before ++ failing.salvage).flatMap (·.routes settings) := by
  have hfault := (compile_eq_error_iff settings d f).mp h
  have hcut : d.cut.faults = [] := by
    rw [faults, occurrences_cut]
    exact faultsOf_untilFault d.occurrences
  have hmade : madeBy settings d.cut.occurrences = madeBy settings d.occurrences := by
    rw [madeBy, untilFault_of_faultless hcut, occurrences_cut, madeBy]
  obtain ⟨before, failing, after, hsplit, hbefore, hf, huntil⟩ := exists_first_fault hfault
  refine ⟨?_, before, failing, after, hsplit, hbefore, hf, ?_, ?_⟩
  · rw [compile_eq_ok_iff, table_draw, table_draw, hmade]
    exact ⟨hcut, rfl⟩
  · rw [occurrences_cut, huntil]
  · rw [table_draw, map_route_madeBy, huntil]

/-- A plan that fails three blocks deep, at the second action of a list. -/
def broken : Definition where
  declarations := [
    .route .get "/health" (.shorthand "health#show"),
    .space ["api"] [
      .resources "posts" { keep := some ["show"] } [
        .resources "comments" { keep := some ["index"] } [
          .actions .member [(.post, "hide"), (.post, "a/b"), (.get, "thread")],
          .resources "votes" {} []],
        .actions .collection [(.get, "search")]],
      .resources "tags" {} []],
    .route .get "/last" (.shorthand "last#show")]

theorem compile_broken :
    (broken.compile Settings.default).1 = .error (.invalidName .member "a/b") ∧
      (broken.cut.compile Settings.default).1 = .ok (broken.draw Settings.default).table ∧
      (broken.draw Settings.default).table.paths = ["/health", "/api/posts/:id(\\d+)",
        "/api/posts/:post_id(\\d+)/comments",
        "/api/posts/:post_id(\\d+)/comments/:id(\\d+)/hide"] := by
  have hfails := (compile_eq_error_iff Settings.default broken (.invalidName .member "a/b")).mpr
    (by decide)
  have hcut := compile_cut Settings.default broken _ hfails
  refine ⟨hfails, hcut.1, ?_⟩
  rw [table_draw]
  decide

end Definition
end RoutePlan
