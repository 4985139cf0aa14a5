import RoutePlan.Proofs.Path.Slashes
import RoutePlan.Proofs.Pattern.Segment

/-! # Pieces between slashes

Putting slashes between the pieces of a text gives the text back, and no piece holds a slash. A
piece other than the first is empty exactly where a slash follows a slash or ends the text.
-/

namespace RoutePlan.Pattern

theorem pieces_eq_splitOn (s : List Char) : pieces s = s.splitOn '/' := by
  induction s with
  | nil => rfl
  | cons c rest ih =>
    rw [pieces, ih, List.splitOn_cons_eq_if_modifyHead]
    by_cases hc : c = '/'
    · simp [hc]
    · simp only [hc, if_false, beq_iff_eq]
      cases hs : rest.splitOn '/' with
      | nil => exact absurd hs (List.splitOn_ne_nil '/' rest)
      | cons p more => rfl

theorem pieces_ne_nil (s : List Char) : pieces s ≠ [] := by
  rw [pieces_eq_splitOn]
  exact List.splitOn_ne_nil '/' s

theorem intercalate_pieces (s : List Char) : List.intercalate ['/'] (pieces s) = s := by
  rw [pieces_eq_splitOn]
  exact List.intercalate_splitOn '/'

theorem pieces_intercalate {ts : List (List Char)} (hne : ts ≠ []) (h : ∀ t ∈ ts, '/' ∉ t) :
    pieces (List.intercalate ['/'] ts) = ts := by
  rw [pieces_eq_splitOn]
  exact List.splitOn_intercalate '/' h hne

/-- A slash ends one piece and begins another. -/
theorem pieces_append_slash (s t : List Char) : pieces (s ++ '/' :: t) = pieces s ++ pieces t := by
  simp only [pieces_eq_splitOn, List.splitOn_append_cons_self]

theorem not_mem_slash_of_pieces (s : List Char) : ∀ t ∈ pieces s, '/' ∉ t := by
  induction s with
  | nil => exact List.forall_mem_singleton.mpr List.not_mem_nil
  | cons c rest ih =>
    rw [pieces]
    by_cases hc : c = '/'
    · rw [if_pos hc]
      exact List.forall_mem_cons.mpr ⟨List.not_mem_nil, ih⟩
    · rw [if_neg hc]
      cases hrest : pieces rest with
      | nil => exact absurd hrest (pieces_ne_nil rest)
      | cons p more =>
        rw [hrest, List.forall_mem_cons] at ih
        refine List.forall_mem_cons.mpr ⟨?_, ih.2⟩
        rw [List.mem_cons, not_or]
        exact ⟨Ne.symm hc, ih.1⟩

/-! ## Empty pieces -/

theorem exists_pieces (s : List Char) :
    ∃ first rest, pieces s = first :: rest ∧ s = first ++ rest.flatMap ('/' :: ·) := by
  cases hs : pieces s with
  | nil => exact absurd hs (pieces_ne_nil s)
  | cons first rest =>
    refine ⟨first, rest, rfl, ?_⟩
    rw [← intercalate_cons, ← hs, intercalate_pieces]

theorem nil_mem_tail_pieces_iff (s : String) :
    [] ∈ (pieces s.toList).tail ↔ Path.Doubled s ∨ s.toList.getLast? = some '/' := by
  constructor
  · intro h
    obtain ⟨first, rest, hpieces, hs⟩ := exists_pieces s.toList
    rw [hpieces, List.tail_cons] at h
    obtain ⟨before, after, rfl⟩ := List.append_of_mem h
    rw [List.flatMap_append, List.flatMap_cons, ← List.append_assoc] at hs
    cases after with
    | nil => exact .inr (by rw [hs]; simp)
    | cons next after =>
      exact .inl ⟨first ++ before.flatMap ('/' :: ·), next ++ after.flatMap ('/' :: ·), by
        rw [hs]; simp⟩
  · intro h
    have hmem : ∀ before after : List Char, [] ∈ pieces after →
        s.toList = before ++ '/' :: after → [] ∈ (pieces s.toList).tail := by
      intro before after hafter hs
      rw [hs, pieces_append_slash, List.tail_append_of_ne_nil (pieces_ne_nil before)]
      exact List.mem_append_right _ hafter
    rcases h with ⟨before, after, h⟩ | h
    · exact hmem before ('/' :: after) List.mem_cons_self (by simpa using h.symm)
    · obtain ⟨before, hs⟩ := List.getLast?_eq_some_iff.mp h
      exact hmem before [] List.mem_cons_self hs

end RoutePlan.Pattern
