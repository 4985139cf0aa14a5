import Mathlib.Data.List.Chain
import RoutePlan.Proofs.Path

/-! # Slashes in joined paths

Joining drops the slashes where the two parts meet and puts one slash there if both parts are
still left. The rest of the parts stands in the path as it was, so two slashes follow one
another in a path only where they do so in one of its parts.
-/

namespace RoutePlan.Path

/-! ## Trimming -/

theorem takeWhile_slash (s : List Char) :
    s.takeWhile (· == '/') = List.replicate (s.takeWhile (· == '/')).length '/' := by
  refine List.eq_replicate_of_mem fun c hc => ?_
  have hall : (s.takeWhile (· == '/')).all (· == '/') := List.all_takeWhile
  simpa using List.all_eq_true.mp hall c hc

theorem exists_trimEndSlashes (s : List Char) :
    ∃ m, s = trimEndSlashes s ++ List.replicate m '/' := by
  refine ⟨(s.reverse.takeWhile (· == '/')).length, ?_⟩
  rw [← List.reverse_replicate, ← takeWhile_slash, trimEndSlashes, ← List.reverse_append,
    List.takeWhile_append_dropWhile, List.reverse_reverse]

theorem getLast?_trimEndSlashes (s : List Char) : (trimEndSlashes s).getLast? ≠ some '/' := by
  rw [trimEndSlashes, List.getLast?_reverse]
  intro h
  have hnot := List.head?_dropWhile_not (· == '/') s.reverse
  simp [h] at hnot

theorem exists_trimStartSlashes (s : List Char) :
    ∃ n, s = List.replicate n '/' ++ trimStartSlashes s := by
  refine ⟨(s.takeWhile (· == '/')).length, ?_⟩
  rw [← takeWhile_slash, trimStartSlashes, List.takeWhile_append_dropWhile]

theorem head?_trimStartSlashes (s : List Char) : (trimStartSlashes s).head? ≠ some '/' := by
  intro h
  have hnot := List.head?_dropWhile_not (· == '/') s
  rw [trimStartSlashes] at h
  simp [h] at hnot

/-! ## Doubled slashes -/

/-- Two slashes follow one another. -/
def Doubled (s : String) : Prop := ['/', '/'] <:+: s.toList

instance (s : String) : Decidable (Doubled s) := inferInstanceAs (Decidable (_ <:+: _))

theorem doubled_iff (s : String) :
    Doubled s ↔ ¬s.toList.IsChain fun c d => c = '/' → d ≠ '/' := by
  rw [List.isChain_iff_forall_rel_of_append_cons_cons]
  constructor
  · rintro ⟨before, after, h⟩ hall
    exact hall (show _ = before ++ '/' :: '/' :: after by simpa using h.symm) rfl rfl
  · intro h
    simp only [not_forall, ne_eq, not_not] at h
    obtain ⟨c, d, before, after, h, rfl, rfl⟩ := h
    exact ⟨before, after, by simp [h]⟩

theorem not_doubled_of_isSegment {s : String} (h : IsSegment s) : ¬Doubled s := by
  intro hd
  have hmem : '/' ∈ s.toList := hd.subset List.mem_cons_self
  exact (h.2 '/' hmem).1 rfl

/-- A concatenation in which the slashes do not meet has two in a row only in one of the parts. -/
theorem Doubled.of_append {s t : String} (h : Doubled (s ++ t))
    (hmeet : s.toList.getLast? ≠ some '/' ∨ t.toList.head? ≠ some '/') :
    Doubled s ∨ Doubled t := by
  rw [doubled_iff, String.toList_append, List.isChain_append] at h
  rw [doubled_iff, doubled_iff, ← not_and_or]
  rintro ⟨hs, ht⟩
  refine h ⟨hs, ht, ?_⟩
  rintro c hc d hd rfl rfl
  exact hmeet.elim (· hc) (· hd)

theorem IsClosed.getLast?_ne {s : String} (h : IsClosed s) : s.toList.getLast? ≠ some '/' := by
  obtain ⟨c, hc, hne⟩ := h
  rw [hc]
  simpa using hne

theorem not_doubled_ofChain {chain : List String} (h : ∀ s ∈ chain, IsSegment s) :
    ¬Doubled (ofChain chain) := by
  induction chain with
  | nil => decide
  | cons s rest ih =>
    have hs : IsSegment s := h s List.mem_cons_self
    intro hd
    rw [ofChain] at hd
    rcases hd.of_append (.inl ((isClosed_of_isSegment hs).append _).getLast?_ne) with hd | hd
    · obtain ⟨c, hc, hne⟩ := head?_of_isSegment hs
      rcases hd.of_append (.inr (by simpa [hc] using hne)) with hd | hd
      · exact absurd hd (by decide)
      · exact not_doubled_of_isSegment hs hd
    · exact ih (fun t ht => h t (List.mem_cons_of_mem _ ht)) hd

/-- An id segment doubles a slash only in its constraint. -/
theorem Doubled.of_idSegment {settings : Settings} {name : String} (hname : ¬Doubled name)
    (h : Doubled (settings.idSegment name)) : Doubled settings.idConstraint := by
  have hopening : ¬Doubled ("/:" ++ name ++ "(") := by
    intro h
    rcases h.of_append (.inr (by decide)) with h | h
    · rcases h.of_append (.inl (by decide)) with h | h
      · exact absurd h (by decide)
      · exact hname h
    · exact absurd h (by decide)
  have hclosed : IsClosed "(" := ⟨'(', by decide, by decide⟩
  rcases h.of_append (.inr (by decide)) with h | h
  · exact (h.of_append (.inl (hclosed.append _).getLast?_ne)).resolve_left hopening
  · exact absurd h (by decide)

/-! ## Joined paths -/

/-- What is left of the two parts, and a slash between them unless only the first is left. -/
def Joined (base path full : String) : Prop :=
  ∃ (head tail : List Char) (m n : Nat),
    base.toList = head ++ List.replicate m '/' ∧ head.getLast? ≠ some '/' ∧
      path.toList = List.replicate n '/' ++ tail ∧ tail.head? ≠ some '/' ∧
        full.toList = if head ≠ [] ∧ tail = [] then head else head ++ '/' :: tail

theorem joinChars_eq (base path : List Char) :
    joinChars base path =
      if trimEndSlashes base ≠ [] ∧ trimStartSlashes path = [] then trimEndSlashes base
      else trimEndSlashes base ++ '/' :: trimStartSlashes path := by
  unfold joinChars
  split <;> simp_all

theorem joined_join (base path : String) : Joined base path (join base path) := by
  obtain ⟨m, hbase⟩ := exists_trimEndSlashes base.toList
  obtain ⟨n, hpath⟩ := exists_trimStartSlashes path.toList
  refine ⟨_, _, m, n, hbase, getLast?_trimEndSlashes _, hpath, head?_trimStartSlashes _, ?_⟩
  rw [join, String.toList_ofList, joinChars_eq]

namespace Joined

variable {base path full : String}

theorem isAbsolute (h : Joined base path full) (hbase : base = "" ∨ IsAbsolute base) :
    IsAbsolute full := by
  obtain ⟨head, tail, m, n, hhead, -, -, -, hfull⟩ := h
  have hstart : head = [] ∨ head.head? = some '/' := by
    cases head with
    | nil => exact .inl rfl
    | cons c rest =>
      rcases hbase with rfl | hbase
      · simp at hhead
      · exact .inr (by simpa [IsAbsolute, hhead] using hbase)
  rw [IsAbsolute, hfull]
  rcases hstart with rfl | hstart
  · simp
  · split <;> simp [hstart, List.head?_append]

/-- The slash at the end of a path is the path or comes from the local part. -/
theorem ends (h : Joined base path full) (hend : full.toList.getLast? = some '/') :
    full = "/" ∨ path.toList.getLast? = some '/' := by
  obtain ⟨head, tail, m, n, -, hhead, hpath, -, hfull⟩ := h
  cases tail with
  | nil =>
    left
    apply String.toList_injective
    rw [hfull] at hend ⊢
    cases head with
    | nil => rfl
    | cons c rest => exact absurd (by simpa using hend) hhead
  | cons d rest =>
    right
    rw [hfull, if_neg (by simp)] at hend
    rw [hpath]
    simpa using hend

theorem doubled (h : Joined base path full) (hd : Doubled full) : Doubled base ∨ Doubled path := by
  obtain ⟨head, tail, m, n, hbase, hhead, hpath, htail, hfull⟩ := h
  rw [doubled_iff, doubled_iff, ← not_and_or, hbase, hpath]
  rintro ⟨hb, hp⟩
  rw [doubled_iff, hfull] at hd
  refine hd ?_
  split
  · exact hb.left_of_append
  · refine hb.left_of_append.append (List.isChain_cons.mpr ⟨?_, hp.right_of_append⟩) ?_
    · rintro d hd - rfl
      exact htail hd
    · rintro c hc d - rfl
      exact absurd hc hhead

end Joined

end RoutePlan.Path
