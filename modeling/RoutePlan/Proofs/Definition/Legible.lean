import RoutePlan.Proofs.Definition.Forest
import RoutePlan.Proofs.Definition.WellFormed
import RoutePlan.Proofs.Pattern.Source

/-! # Legible addresses

The paths of resources are written without a look at how patterns are read. They are read back
as they are meant where no name begins with a colon, every id has an identifier for its name and
the constraint stays within its segment. Then the parameters of a path are the ids on it, and
its expression is made of theirs.
-/

namespace RoutePlan

open Pattern

/-- A name that is not taken for a parameter, or an id under an identifier. -/
inductive Pattern.Segment.IsMeant (settings : Settings) : Segment → Prop
  | name {name : String} (segment : IsSegment name) (colon : name.toList.head? ≠ some ':') :
    IsMeant settings (.ofName name)
  | id {name : String} (ident : IsIdent name.toList) : IsMeant settings (settings.idPart name)

/-- A constraint that keeps to its segment, and that is one expression there. -/
structure Settings.Embeds (settings : Settings) (inner : Regex.Expr → Prop) : Prop where
  ne_nil : settings.idConstraint.toList ≠ []
  slash : '/' ∉ settings.idConstraint.toList
  line : '\n' ∉ settings.idConstraint.toList
  embeds : Pattern.Embeds inner settings.idConstraint.toList

/-- A resource whose own name and id are read back as they are meant. -/
structure ResourceSpec.IsLegible (r : ResourceSpec) : Prop where
  segment : IsSegment r.name
  colon : r.name.toList.head? ≠ some ':'
  param : IsIdent r.param.toList

variable {settings : Settings} {inner : Regex.Expr → Prop} {around : Nesting}
  {outermost nested : ResourceSpec → Prop} {ds : List Declaration}

theorem not_mem_slash {name : String} (h : IsSegment name) : '/' ∉ name.toList :=
  fun hm => (h.2 '/' hm).1 rfl

namespace Pattern.Segment.IsMeant

variable {s : Segment}

theorem legible (h : settings.Embeds inner) (hs : s.IsMeant settings) : s.Legible := by
  cases hs with
  | name segment colon => exact legible_fixed (not_mem_slash segment) colon
  | id ident => exact legible_constrained ident h.ne_nil h.slash h.line

theorem written_ne_nil (hs : s.IsMeant settings) : s.written ≠ [] := by
  cases hs with
  | name segment _ => simpa [ofName, written] using segment.1
  | id _ => simp [Settings.idPart, written]

theorem embedded (h : settings.Embeds inner) (hs : s.IsMeant settings) : s.Embedded inner := by
  cases hs with
  | name _ _ => exact trivial
  | id _ => exact h.embeds

end Pattern.Segment.IsMeant

/-- The default constraint is one expression wherever it stands. -/
theorem Settings.embeds_default : Settings.default.Embeds IsDigits where
  ne_nil := by decide
  slash := by decide
  line := by decide
  embeds := embeds_digits

/-- The expression of an address is made of those of its segments. -/
theorem Address.ofSource?_path (h : settings.Embeds inner) {a : Address}
    (ha : ∀ s ∈ a.segments, s.IsMeant settings) :
    ∃ parts, List.Forall₂ (Segment.Denotes inner) a.segments parts ∧
      Regex.ofSource? (source a.path) = some ⟨source a.path, Regex.Expr.seqAll
        (.look .textStart :: parts.flatten ++ [.look .textEnd])⟩ :=
  ofSource?_written (fun s hs => (ha s hs).legible h) (fun s hs => (ha s hs).written_ne_nil)
    fun s hs => (ha s hs).embedded h

/-! ## Resources -/

theorem isMeant_id (settings : Settings) : (settings.idPart "id").IsMeant settings :=
  .id (by decide)

theorem ResourceSpec.IsLegible.isMeant_name {r : ResourceSpec} (h : r.IsLegible) :
    (Segment.ofName r.name).IsMeant settings :=
  .name h.segment h.colon

theorem ResourceSpec.IsLegible.isMeant_passage {r : ResourceSpec} (h : r.IsLegible) :
    (r.passage settings).IsMeant settings := by
  refine .id ?_
  have hne : r.param.toList ≠ [] := fun hnil => by simpa [hnil, IsIdent] using h.param
  rw [String.toList_append, isIdent_append_iff hne]
  exact ⟨h.param, List.all_eq_true.mp (by decide)⟩

theorem Action.isMeant_segments (settings : Settings) (a : Action) :
    ∀ s ∈ a.segments settings, s.IsMeant settings := by
  have hnew : (Segment.ofName "new").IsMeant settings := .name (by decide) (by decide)
  have hedit : (Segment.ofName "edit").IsMeant settings := .name (by decide) (by decide)
  cases a <;> simp [segments, isMeant_id, hnew, hedit]

/-- Every address of a forest of legible resources is read back as it is meant. -/
theorem IsForest.isMeant (h : IsForest outermost nested ds)
    (hspace : around.resource? = none → ∀ r, outermost r → r.options.space = none)
    (hbase : ∀ s ∈ around.base settings, s.IsMeant settings)
    (houtermost : ∀ r, outermost r → r.IsLegible) (hnested : ∀ r, nested r → r.IsLegible) :
    ∀ a ∈ addressesAll settings around ds, ∀ s ∈ a.segments, s.IsMeant settings := by
  induction h generalizing around with
  | nil => exact fun a ha => absurd ha List.not_mem_nil
  | @cons outermost nested name options block rest hr inside beside fresh ihinside ihbeside =>
    let r : ResourceSpec := ⟨name, options⟩
    have hlegible : r.IsLegible := houtermost r hr
    have hspace' : around.resource? = none → r.options.space = none :=
      fun hnone => hspace hnone r hr
    have hown : ∀ s ∈ (around.resources r).segments settings, s.IsMeant settings := by
      rw [Nesting.segments_resources settings hspace', List.forall_mem_append,
        List.forall_mem_singleton]
      exact ⟨hbase, hlegible.isMeant_name⟩
    have hbase' : ∀ s ∈ (around.resources r).base settings, s.IsMeant settings := by
      rw [Nesting.base, Nesting.resource?, List.forall_mem_append, List.forall_mem_singleton]
      exact ⟨hown, hlegible.isMeant_passage⟩
    have hnone : (around.resources r).resource? = none →
        ∀ s, nested s → s.options.space = none := fun hnone => by cases hnone
    rw [addressesAll_resources, List.forall_mem_append, List.forall_mem_append]
    refine ⟨⟨?_, ihinside hnone hbase' hnested hnested⟩, ihbeside hspace hbase houtermost hnested⟩
    intro a ha
    obtain ⟨action, -, rfl⟩ := List.mem_map.mp ha
    exact List.forall_mem_append.mpr ⟨hown, action.isMeant_segments settings⟩

/-- The names of the namespaces around a definition without faults fill a segment each. -/
theorem isSegment_of_enclose (spaces : List (List String)) (hnone : around.resource? = none)
    (h : faultsOf (occurrencesAll around (enclose spaces ds)) = []) :
    ∀ s ∈ spaces.flatten, IsSegment s := by
  induction spaces generalizing around with
  | nil => exact fun s hs => absurd hs List.not_mem_nil
  | cons names spaces ih =>
    rw [enclose, occurrencesAll, Declaration.occurrences, List.cons_append, occurrencesAll,
      List.append_nil, faultsOf_cons_eq_nil_iff, Occurrence.faults_space_eq_nil_iff] at h
    rw [List.flatten_cons, List.forall_mem_append]
    have hnot : ¬around.resource?.isSome := by simp [hnone]
    exact ⟨(h.1 hnot).2, @ih (around.space names) hnone h.2⟩

end RoutePlan
