import RoutePlan.Proofs.Singular

/-! # Singular names by their ending

The rules for singular names are told here by the endings they look for and the bytes they cut off.
They cut off whole characters only, and what they leave is the name, the name without its last
letter or two, or a name in `y` for one in `ies`. What they leave is settled: no rule applies to it
any more, so that a singular name is its own singular.
-/

namespace RoutePlan

/-! ## Cutting bytes -/

/-- The text before its last bytes, unless the cut goes through a character. -/
def withoutBytes? (text : String) (bytes : Nat) : Option String :=
  String.fromUTF8? (text.toByteArray.extract 0 (text.utf8ByteSize - bytes))

/-- The first rule whose ending the name has decides; `ies`, `ches` and `s` need a stem. -/
def singularByEnding? (name : String) : Option String :=
  if name.endsWith "ies" ∧ name ≠ "ies" then
    (withoutBytes? name 3).map (· ++ "y")
  else if name.endsWith "sses" ∨ name.endsWith "shes" ∨ name.endsWith "xes" ∨
      name.endsWith "zes" then
    withoutBytes? name 2
  else if name.endsWith "ches" ∧ name ≠ "ches" then
    (withoutBytes? name 4).bind fun stem =>
      if stem.endsWith (fun c => !isVowel c) ∨ stem.endsWith "oa" ∨ stem.endsWith "ea" then
        withoutBytes? name 2
      else withoutBytes? name 1
  else if name.endsWith "ss" ∨ name.endsWith "us" ∨ name.endsWith "is" ∨ name.endsWith "ws" then
    some name
  else if name.endsWith "s" ∧ name ≠ "s" then withoutBytes? name 1
  else some name

/-- Whole characters at the end can be cut off. -/
theorem withoutBytes?_append (stem ending : String) :
    withoutBytes? (stem ++ ending) ending.utf8ByteSize = some stem := by
  have hsize : (stem ++ ending).utf8ByteSize - ending.utf8ByteSize = stem.toByteArray.size := by
    rw [String.utf8ByteSize_append, Nat.add_sub_cancel, String.size_toByteArray]
  rw [withoutBytes?, hsize, String.toByteArray_append, ByteArray.extract_append_eq_left rfl,
    String.fromUTF8?, dif_pos stem.isValidUTF8]
  rfl

/-! ## Names from their last letter on -/

/-- The text of letters that are given last letter first. -/
def ofReversed (letters : List Char) : String := String.ofList letters.reverse

variable {r : List Char}

theorem exists_ofReversed (s : String) : ∃ r, ofReversed r = s :=
  ⟨s.toList.reverse, by simp [ofReversed]⟩

theorem singular_ofReversed (r : List Char) :
    singular (ofReversed r) = ofReversed (singularReversed r) := by
  simp [singular, ofReversed]

theorem ofReversed_append (cut stem : List Char) :
    ofReversed (cut ++ stem) = ofReversed stem ++ ofReversed cut := by
  simp [ofReversed]

theorem mem_ofReversed {c : Char} : c ∈ (ofReversed r).toList ↔ c ∈ r := by
  simp [ofReversed]

theorem ofReversed_eq_iff {s : String} : ofReversed r = s ↔ r = s.toList.reverse := by
  rw [← String.toList_inj, ofReversed, String.toList_ofList, List.reverse_eq_iff]

theorem endsWith_iff (s ending : String) :
    s.endsWith ending = true ↔ ending.toList <:+ s.toList := by
  rw [← String.endsWith_toSlice]
  simp [-String.endsWith_toSlice]

theorem endsWith_ofReversed_iff (r : List Char) (ending : String) :
    (ofReversed r).endsWith ending = true ↔ ∃ stem, r = ending.toList.reverse ++ stem := by
  rw [endsWith_iff, ofReversed, String.toList_ofList, ← List.reverse_prefix, List.reverse_reverse]
  exact ⟨fun ⟨stem, h⟩ => ⟨stem, h.symm⟩, fun ⟨stem, h⟩ => ⟨stem, h.symm⟩⟩

/-- An ending behind a stem that is not empty. -/
theorem endsWith_and_ne_iff (r : List Char) (ending : String) :
    (ofReversed r).endsWith ending = true ∧ ofReversed r ≠ ending ↔
      ∃ c stem, r = ending.toList.reverse ++ c :: stem := by
  rw [endsWith_ofReversed_iff, Ne, ofReversed_eq_iff]
  constructor
  · rintro ⟨⟨stem, rfl⟩, hne⟩
    cases stem with
    | nil => exact absurd (List.append_nil _) hne
    | cons c stem => exact ⟨c, stem, rfl⟩
  · rintro ⟨c, stem, rfl⟩
    exact ⟨⟨c :: stem, rfl⟩, by simp⟩

theorem withoutBytes?_ofReversed (cut stem : List Char) {bytes : Nat}
    (h : (ofReversed cut).utf8ByteSize = bytes) :
    withoutBytes? (ofReversed (cut ++ stem)) bytes = some (ofReversed stem) := by
  rw [ofReversed_append, ← h, withoutBytes?_append]

theorem dropsEs_iff (r : List Char) :
    dropsEs r = true ↔ (ofReversed r).endsWith (fun c => !isVowel c) ∨
      (ofReversed r).endsWith "oa" ∨ (ofReversed r).endsWith "ea" := by
  simp only [endsWith_ofReversed_iff, String.endsWith_bool_eq_getLast?]
  fun_cases dropsEs r <;> simp [ofReversed]
  grind

/-- The first rule that applies is the one that is found from the last letter on, and it cuts off
whole characters. -/
theorem singularByEnding?_ofReversed (r : List Char) :
    singularByEnding? (ofReversed r) = some (ofReversed (singularReversed r)) := by
  classical
  unfold singularByEnding?
  simp only [endsWith_and_ne_iff]
  simp only [endsWith_ofReversed_iff]
  have hone (stem : List Char) : withoutBytes? (ofReversed ('s' :: stem)) 1 =
      some (ofReversed stem) := withoutBytes?_ofReversed ['s'] stem (by decide)
  have htwo (stem : List Char) : withoutBytes? (ofReversed ('s' :: 'e' :: stem)) 2 =
      some (ofReversed stem) := withoutBytes?_ofReversed ['s', 'e'] stem (by decide)
  have hies (stem : List Char) : withoutBytes? (ofReversed ('s' :: 'e' :: 'i' :: stem)) 3 =
      some (ofReversed stem) := withoutBytes?_ofReversed ['s', 'e', 'i'] stem (by decide)
  have hches (stem : List Char) :
      withoutBytes? (ofReversed ('s' :: 'e' :: 'h' :: 'c' :: stem)) 4 = some (ofReversed stem) :=
    withoutBytes?_ofReversed ['s', 'e', 'h', 'c'] stem (by decide)
  -- The letters of each case decide which of the endings the name has.
  fun_cases singularReversed r
  case case1 c stem =>
    have hy : ofReversed ('y' :: c :: stem) = ofReversed (c :: stem) ++ "y" :=
      ofReversed_append ['y'] (c :: stem)
    simp [hies, hy]
  case case2 | case3 | case4 | case5 => simp [htwo]
  case case6 c stem hdrops => simp [hches, htwo, ← dropsEs_iff, hdrops]
  case case7 c stem hdrops => simp [hches, hone, ← dropsEs_iff, hdrops]
  case case8 | case9 | case10 | case11 => simp
  case case12 c stem _ _ _ _ _ _ _ _ _ _ =>
    by_cases hc : c = 'e'
    · simp_all
    · simp_all
  case case13 => simp_all

/-! ## What is left of a name -/

/-- A rule cuts off up to two letters, or it puts a `y` for the end of a name in `ies`. -/
theorem singularReversed_shape (r : List Char) :
    (∃ cut, r = cut ++ singularReversed r ∧ cut.length ≤ 2) ∨
      ∃ stem, stem ≠ [] ∧ r = 's' :: 'e' :: 'i' :: stem ∧ singularReversed r = 'y' :: stem := by
  fun_cases singularReversed r
  case case1 c stem => exact .inr ⟨c :: stem, List.cons_ne_nil c stem, rfl, rfl⟩
  case case2 | case3 | case4 | case5 | case6 => exact .inl ⟨['s', 'e'], rfl, by decide⟩
  case case7 | case12 => exact .inl ⟨['s'], rfl, by decide⟩
  case case8 | case9 | case10 | case11 | case13 => exact .inl ⟨[], rfl, by decide⟩

/-- At the end of a settled name an `s` stands behind one of four letters, or alone. -/
def Settled (r : List Char) : Prop :=
  ∀ c stem, r = 's' :: c :: stem → c ∈ ['s', 'u', 'i', 'w']

theorem settled_singularReversed (r : List Char) : Settled (singularReversed r) := by
  fun_cases singularReversed r
  all_goals
    intro letter rest h
    grind

/-- No rule changes a settled name. -/
theorem singularReversed_of_settled (h : Settled r) : singularReversed r = r := by
  fun_cases singularReversed r
  case case8 | case9 | case10 | case11 | case13 => rfl
  all_goals
    have hletter := h _ _ rfl
    simp_all

/-! ## Singular names -/

theorem singular_singular (name : String) : singular (singular name) = singular name := by
  obtain ⟨r, rfl⟩ := exists_ofReversed name
  rw [singular_ofReversed, singular_ofReversed,
    singularReversed_of_settled (settled_singularReversed r)]

theorem singularByEnding?_eq (name : String) : singularByEnding? name = some (singular name) := by
  obtain ⟨r, rfl⟩ := exists_ofReversed name
  rw [singularByEnding?_ofReversed, singular_ofReversed]

theorem singular_shape (name : String) :
    (∃ cut, name = singular name ++ cut ∧ cut.length ≤ 2) ∨
      ∃ stem, stem ≠ "" ∧ name = stem ++ "ies" ∧ singular name = stem ++ "y" := by
  obtain ⟨r, rfl⟩ := exists_ofReversed name
  rw [singular_ofReversed]
  rcases singularReversed_shape r with ⟨cut, hr, hlength⟩ | ⟨stem, hne, hr, hsingular⟩
  · refine .inl ⟨ofReversed cut, ?_, by simpa [ofReversed] using hlength⟩
    rw [← ofReversed_append, ← hr]
  · refine .inr ⟨ofReversed stem, ?_, ?_, ?_⟩
    · simpa [ofReversed_eq_iff] using hne
    · rw [hr]
      exact ofReversed_append ['s', 'e', 'i'] stem
    · rw [hsingular]
      exact ofReversed_append ['y'] stem

theorem length_singular_le (name : String) : (singular name).length ≤ name.length := by
  rcases singular_shape name with ⟨cut, hname, -⟩ | ⟨stem, -, hname, hsingular⟩
  · have hlength := congrArg String.length hname
    rw [String.length_append] at hlength
    omega
  · rw [hsingular, hname, String.length_append, String.length_append]
    exact Nat.add_le_add_left (by decide) _

theorem singular_ne_empty {name : String} (h : name ≠ "") : singular name ≠ "" := by
  obtain ⟨r, rfl⟩ := exists_ofReversed name
  rw [Ne, ofReversed_eq_iff] at h
  rw [singular_ofReversed, Ne, ofReversed_eq_iff]
  exact singularReversed_ne_nil h

theorem mem_singular {name : String} {c : Char} (h : c ∈ (singular name).toList) :
    c ∈ name.toList ∨ c = 'y' := by
  obtain ⟨r, rfl⟩ := exists_ofReversed name
  rw [singular_ofReversed, mem_ofReversed] at h
  rw [mem_ofReversed]
  exact mem_singularReversed h

theorem endsWith_singular {name : String} (h : (singular name).endsWith "s") :
    singular name = "s" ∨
      ∃ ending ∈ ["ss", "us", "is", "ws"], (singular name).endsWith ending := by
  obtain ⟨r, rfl⟩ := exists_ofReversed name
  rw [singular_ofReversed] at h ⊢
  obtain ⟨stem, hstem⟩ := (endsWith_ofReversed_iff _ _).mp h
  cases stem with
  | nil => exact .inl (ofReversed_eq_iff.mpr hstem)
  | cons c stem =>
    have hletter : c ∈ ['s', 'u', 'i', 'w'] := settled_singularReversed r c stem hstem
    have hending : ∀ d ∈ ['s', 'u', 'i', 'w'], ofReversed ['s', d] ∈ ["ss", "us", "is", "ws"] := by
      simp [ofReversed]
    refine .inr ⟨_, hending c hletter, (endsWith_ofReversed_iff _ _).mpr ⟨stem, ?_⟩⟩
    rw [hstem]
    simp [ofReversed]

/-- The rules cut off whole characters, and what is left is the singular. It is empty for the empty
name only and never longer than the name; it is the name without at most two characters at its
end, or a name in `y` for one in `ies`; no slash and no blank comes into it, so that it fills a
path segment if the name does; an `s` at its end is not that of a plural; and it is its own
singular. -/
theorem singular_settled (name : String) :
    singularByEnding? name = some (singular name) ∧
      (name ≠ "" → singular name ≠ "") ∧
      (singular name).length ≤ name.length ∧
      ((∃ cut, name = singular name ++ cut ∧ cut.length ≤ 2) ∨
        ∃ stem, stem ≠ "" ∧ name = stem ++ "ies" ∧ singular name = stem ++ "y") ∧
      (∀ c ∈ (singular name).toList, c = '/' ∨ Text.isBlank c → c ∈ name.toList) ∧
      (IsSegment name → IsSegment (singular name)) ∧
      ((singular name).endsWith "s" → singular name = "s" ∨
        ∃ ending ∈ ["ss", "us", "is", "ws"], (singular name).endsWith ending) ∧
      singular (singular name) = singular name := by
  refine ⟨singularByEnding?_eq name, singular_ne_empty, length_singular_le name,
    singular_shape name, ?plain, isSegment_singular, endsWith_singular, singular_singular name⟩
  case plain =>
    intro c hc hplain
    rcases mem_singular hc with hm | rfl
    · exact hm
    · exact absurd hplain (by decide)

/-- Two bytes are cut off behind a letter of two bytes, and the `s` that is left there stays. -/
theorem singular_settled_sharp :
    singularByEnding? "ßsses" = some "ßss" ∧ IsSegment "ßss" ∧
      (∃ ending ∈ ["ss", "us", "is", "ws"], "ßss".endsWith ending) ∧ singular "ßss" = "ßss" := by
  have hsingular : singular "ßsses" = "ßss" := by decide
  obtain ⟨hcut, -, -, -, -, hsegment, hends, hstable⟩ := singular_settled "ßsses"
  rw [hsingular] at hcut hsegment hends hstable
  have hs : "ßss".endsWith "s" = true := (endsWith_iff _ _).mpr (by decide)
  exact ⟨hcut, hsegment (by decide), (hends hs).resolve_left (by decide), hstable⟩

end RoutePlan
