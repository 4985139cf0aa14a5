import RoutePlan.Action
import RoutePlan.Path
import RoutePlan.Proofs.Verdict

/-! # Joined paths

A path that does not end in a slash is closed: joining keeps it whole and puts the local
part, without the slashes it starts with, behind a single slash.
-/

namespace RoutePlan.Path

/-- Not empty, and no slash at the end. -/
def IsClosed (s : String) : Prop := ∃ c, s.toList.getLast? = some c ∧ c ≠ '/'

theorem IsClosed.append {s : String} (t : String) (h : IsClosed s) : IsClosed (t ++ s) := by
  obtain ⟨c, hc, hne⟩ := h
  exact ⟨c, by simp [hc], hne⟩

theorem isClosed_of_isSegment {s : String} (h : IsSegment s) : IsClosed s := by
  obtain ⟨hne, hall⟩ := h
  have hlist : s.toList ≠ [] := by simpa using hne
  exact ⟨s.toList.getLast hlist, List.getLast?_eq_some_getLast hlist,
    (hall _ (List.getLast_mem hlist)).1⟩

theorem trimEndSlashes_eq_self {s : String} (h : IsClosed s) :
    trimEndSlashes s.toList = s.toList := by
  obtain ⟨c, hc, hne⟩ := h
  rw [← List.head?_reverse] at hc
  obtain ⟨rest, hrest⟩ : ∃ rest, s.toList.reverse = c :: rest := by
    cases hr : s.toList.reverse with
    | nil => simp [hr] at hc
    | cons d rest => exact ⟨rest, by simp_all⟩
  rw [trimEndSlashes, hrest, List.dropWhile_cons_of_neg (by simpa using hne), ← hrest,
    List.reverse_reverse]

/-- Behind a closed path only the trimmed local part counts. -/
theorem join_of_trim {base path rest : String} (h : IsClosed base)
    (ht : trimStartSlashes path.toList = rest.toList) :
    join base path = if rest = "" then base else base ++ "/" ++ rest := by
  obtain ⟨c, hc, -⟩ := id h
  unfold join joinChars
  rw [trimEndSlashes_eq_self h, ht]
  apply String.toList_injective
  cases hb : base.toList with
  | nil => simp [hb] at hc
  | cons d more =>
    cases hr : rest.toList with
    | nil => simp_all
    | cons e tail =>
      have hne : rest ≠ "" := by rintro rfl; simp at hr
      simp [hb, hr, hne]

theorem join_empty {base : String} (h : IsClosed base) : join base "" = base := by
  have htrim : trimStartSlashes "".toList = "".toList := rfl
  rw [join_of_trim h htrim, if_pos rfl]

theorem trimStartSlashes_eq_self {s : String} {c : Char} (hs : s.toList.head? = some c)
    (hc : c ≠ '/') : trimStartSlashes s.toList = s.toList := by
  cases hl : s.toList with
  | nil => rfl
  | cons d rest =>
    have hd : d = c := by simpa [hl] using hs
    rw [trimStartSlashes, List.dropWhile_cons_of_neg (by simpa [hd] using hc)]

theorem head?_of_isSegment {s : String} (h : IsSegment s) :
    ∃ c, s.toList.head? = some c ∧ c ≠ '/' := by
  obtain ⟨hne, hall⟩ := h
  have hlist : s.toList ≠ [] := by simpa using hne
  exact ⟨s.toList.head hlist, List.head?_eq_some_head hlist, (hall _ (List.head_mem hlist)).1⟩

theorem join_segment {base name : String} (h : IsClosed base) (hn : IsSegment name) :
    join base name = base ++ "/" ++ name := by
  obtain ⟨c, hc, hslash⟩ := head?_of_isSegment hn
  rw [join_of_trim h (trimStartSlashes_eq_self hc hslash), if_neg hn.1]

/-- The slash a local part starts with is the one that joining puts there. -/
theorem join_slash {base path : String} {c : Char} {rest : List Char} (h : IsClosed base)
    (hp : path.toList = '/' :: c :: rest) (hc : c ≠ '/') : join base path = base ++ path := by
  have htrim : trimStartSlashes path.toList = (String.ofList (c :: rest)).toList := by
    simp [trimStartSlashes, hp, hc]
  have hne : String.ofList (c :: rest) ≠ "" := by simp
  rw [join_of_trim h htrim, if_neg hne]
  apply String.toList_injective
  simp [hp]

/-- An id segment is closed by its parenthesis, whatever the constraint. -/
theorem isClosed_idSegment (settings : Settings) (name : String) :
    IsClosed (settings.idSegment name) := by
  have hend : IsClosed ")" := ⟨')', by decide, by decide⟩
  exact hend.append _

/-- What an action adds to the path of its resource is added as it is. -/
theorem join_suffix {base : String} (settings : Settings) (a : Action) (h : IsClosed base) :
    join base (a.suffix settings) = base ++ a.suffix settings := by
  have hid : (settings.idSegment "id").toList =
      '/' :: ':' :: ("id(" ++ settings.idConstraint ++ ")").toList := by
    simp [Settings.idSegment]
  cases a with
  | index => rw [Action.suffix, join_empty h, String.append_empty]
  | create => rw [Action.suffix, join_empty h, String.append_empty]
  | new => exact join_slash h (show "/new".toList = ['/', 'n', 'e', 'w'] by decide) (by decide)
  | detail => exact join_slash h hid (by decide)
  | update => exact join_slash h hid (by decide)
  | destroy => exact join_slash h hid (by decide)
  | edit =>
    have hedit : (settings.idSegment "id" ++ "/edit").toList =
        '/' :: ':' :: (("id(" ++ settings.idConstraint ++ ")").toList ++ "/edit".toList) := by
      rw [String.toList_append, hid]
      rfl
    exact join_slash h hedit (by decide)

/-! ## Where a path starts -/

def IsAbsolute (s : String) : Prop := s.toList.head? = some '/'

theorem IsAbsolute.append {s : String} (t : String) (h : IsAbsolute s) : IsAbsolute (s ++ t) := by
  rw [IsAbsolute, String.toList_append, List.head?_append, show s.toList.head? = some '/' from h]
  rfl

theorem isAbsolute_slash (t : String) : IsAbsolute ("/" ++ t) :=
  IsAbsolute.append t (show "/".toList.head? = some '/' by decide)

theorem ofChain_append_singleton (chain : List String) (s : String) :
    ofChain (chain ++ [s]) = ofChain chain ++ "/" ++ s := by
  induction chain with
  | nil => simp [ofChain]
  | cons first rest ih =>
    rw [List.cons_append, ofChain, ofChain, ih]
    simp only [String.append_assoc]

theorem isAbsolute_ofChain {chain : List String} (h : chain ≠ []) : IsAbsolute (ofChain chain) := by
  cases chain with
  | nil => exact absurd rfl h
  | cons s rest =>
    rw [ofChain, String.append_assoc]
    exact isAbsolute_slash _

theorem isClosed_ofChain {chain : List String} (h : chain ≠ []) (hall : ∀ s ∈ chain, IsSegment s) :
    IsClosed (ofChain chain) := by
  induction chain with
  | nil => exact absurd rfl h
  | cons s rest ih =>
    rw [ofChain]
    cases rest with
    | nil =>
      rw [ofChain, String.append_empty]
      exact (isClosed_of_isSegment (hall s List.mem_cons_self)).append _
    | cons t more =>
      refine (ih (by simp) fun u hu => hall u (List.mem_cons_of_mem _ hu)).append _

theorem IsClosed.ne_empty {s : String} (h : IsClosed s) : s ≠ "" := by
  rintro rfl
  obtain ⟨c, hc, -⟩ := h
  cases hc

end RoutePlan.Path
