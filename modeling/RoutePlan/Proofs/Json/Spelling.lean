import Mathlib.Data.List.Forall2
import RoutePlan.Json.Tree

/-! # Spellings of strings

A character of a string can be written as itself, by a letter after a backslash, or by one or two
units of four hexadecimal digits. Whatever spelling is chosen for each character, reading gives
back the string, and skipping passes over the same text.
-/

namespace RoutePlan.Json

variable {c : Char} {cs ds w : List Char} {n : Nat} {t : String}

/-! ## Steps that succeed -/

theorem ok_bind {ε α β : Type} (a : α) (f : α → Except ε β) : (Except.ok a >>= f) = f a := rfl

theorem exists_of_bind_eq_ok {ε α β : Type} {step : Except ε α} {f : α → Except ε β} {b : β}
    (h : step >>= f = .ok b) : ∃ a, step = .ok a ∧ f a = .ok b := by
  cases step with
  | error e => cases h
  | ok a => exact ⟨a, rfl, h⟩

/-! ## Spellings -/

/-- Four hexadecimal digits and the unit they stand for. -/
inductive UnitSpelled : Nat → List Char → Prop
  | digits {a b c d : Char} {w x y z : Nat} (ha : hexDigit? a = some w)
    (hb : hexDigit? b = some x) (hc : hexDigit? c = some y) (hd : hexDigit? d = some z) :
    UnitSpelled (((w * 16 + x) * 16 + y) * 16 + z) [a, b, c, d]

/-- The ways to write a character between the quotes of a string. -/
inductive CharSpelled : Char → List Char → Prop
  | plain {c : Char} (hquote : c ≠ '"') (hescape : c ≠ '\\') (hcontrol : isControl c = false) :
    CharSpelled c [c]
  | letter {c l : Char} (h : simpleEscape? l = some c) : CharSpelled c ['\\', l]
  | unit {c : Char} {ds : List Char} (h : UnitSpelled c.toNat ds) :
    CharSpelled c ('\\' :: 'u' :: ds)
  | pair {lead trail : Nat} {ds ds' : List Char} (hlead : isLeadUnit lead = true)
    (htrail : isTrailUnit trail = true) (h : UnitSpelled lead ds) (h' : UnitSpelled trail ds') :
    CharSpelled (pairUnits lead trail) ('\\' :: 'u' :: (ds ++ '\\' :: 'u' :: ds'))

/-- What may stand between the quotes of a string. -/
def TextSpelled (t : String) (w : List Char) : Prop :=
  ∃ words, List.Forall₂ CharSpelled t.toList words ∧ w = words.flatten

theorem readUnit_append (h : UnitSpelled n ds) (rest : List Char) :
    readUnit (ds ++ rest) = .ok (n, rest) := by
  obtain ⟨ha, hb, hc, hd⟩ := h
  simp [readUnit, ha, hb, hc, hd]

theorem readEscape_letter {l : Char} (h : simpleEscape? l = some c) (rest : List Char) :
    readEscape (l :: rest) = .ok (c, rest) := by
  have hl : l ≠ 'u' := by
    rintro rfl
    cases h
  simp [readEscape, h]

theorem skipEscape_letter {l : Char} (h : simpleEscape? l = some c) (rest : List Char) :
    skipEscape (l :: rest) = .ok ((), rest) := by
  have hl : l ≠ 'u' := by
    rintro rfl
    cases h
  simp [skipEscape, h]

/-- No character stands for half of a pair. -/
theorem isTrailUnit_toNat (c : Char) : isTrailUnit c.toNat = false := by
  have hvalid := c.valid
  simp only [isTrailUnit, Char.toNat, UInt32.isValidChar, Nat.isValidChar] at hvalid ⊢
  simp only [Bool.and_eq_false_iff, decide_eq_false_iff_not]
  omega

theorem isLeadUnit_toNat (c : Char) : isLeadUnit c.toNat = false := by
  have hvalid := c.valid
  simp only [isLeadUnit, Char.toNat, UInt32.isValidChar, Nat.isValidChar] at hvalid ⊢
  simp only [Bool.and_eq_false_iff, decide_eq_false_iff_not]
  omega

theorem readEscape_unit (h : UnitSpelled c.toNat ds) (rest : List Char) :
    readEscape ('u' :: (ds ++ rest)) = .ok (c, rest) := by
  simp [readEscape, readUnit_append h, ok_bind, isTrailUnit_toNat, isLeadUnit_toNat]

theorem readEscape_pair {lead trail : Nat} {ds ds' : List Char} (hlead : isLeadUnit lead = true)
    (htrail : isTrailUnit trail = true) (h : UnitSpelled lead ds) (h' : UnitSpelled trail ds')
    (rest : List Char) :
    readEscape ('u' :: (ds ++ '\\' :: 'u' :: (ds' ++ rest))) =
      .ok (pairUnits lead trail, rest) := by
  have hnot : isTrailUnit lead = false := by
    simp only [isLeadUnit, isTrailUnit, Bool.and_eq_true, decide_eq_true_eq] at hlead ⊢
    simp only [Bool.and_eq_false_iff, decide_eq_false_iff_not]
    omega
  simp [readEscape, readUnit_append h, ok_bind, hnot, hlead, readTrail, readUnit_append h', htrail]

theorem skipEscape_unit (h : UnitSpelled n ds) (rest : List Char) :
    skipEscape ('u' :: (ds ++ rest)) = .ok ((), rest) := by
  simp [skipEscape, readUnit_append h, ok_bind]

theorem readChars_escape {s after : List Char} (h : readEscape s = .ok (c, after)) :
    readChars ('\\' :: s) = (do
      let (cs, rest) ← readChars after
      .ok (c :: cs, rest)) := by
  rw [readChars]
  split
  · rename_i e he
    rw [h] at he
    cases he
  · rename_i c' after' he
    rw [h] at he
    cases he
    rfl

theorem skipChars_escape {s after : List Char} (h : skipEscape s = .ok ((), after)) :
    skipChars ('\\' :: s) = skipChars after := by
  rw [skipChars]
  split
  · rename_i e he
    rw [h] at he
    cases he
  · rename_i u after' he
    rw [h] at he
    cases he
    rfl

/-- A spelled character is read as that character. -/
theorem readChars_word (h : CharSpelled c w) (s : List Char) :
    readChars (w ++ s) = (do
      let (cs, rest) ← readChars s
      .ok (c :: cs, rest)) := by
  cases h with
  | plain hquote hescape hcontrol =>
    rw [List.singleton_append, readChars, if_neg (by simp [hcontrol])]
    · exact hquote
    · exact hescape
  | letter h => exact readChars_escape (readEscape_letter h s)
  | unit h => exact readChars_escape (readEscape_unit h s)
  | pair hlead htrail h h' =>
    have hread := readEscape_pair hlead htrail h h' s
    simpa using readChars_escape hread

theorem skipChars_word (h : CharSpelled c w) (s : List Char) :
    skipChars (w ++ s) = skipChars s := by
  cases h with
  | plain hquote hescape hcontrol =>
    rw [List.singleton_append, skipChars, if_neg (by simp [hcontrol])]
    · exact hquote
    · exact hescape
  | letter h => exact skipChars_escape (skipEscape_letter h s)
  | unit h => exact skipChars_escape (skipEscape_unit h s)
  | pair hlead htrail h h' =>
    -- Skipping takes the two units of a pair for two escapes.
    rename_i ds ds'
    have hfirst := skipChars_escape (skipEscape_unit h ('\\' :: 'u' :: (ds' ++ s)))
    have hsecond := skipChars_escape (skipEscape_unit h' s)
    simpa [hsecond] using hfirst

theorem readChars_words {words : List (List Char)} (h : List.Forall₂ CharSpelled cs words)
    (rest : List Char) : readChars (words.flatten ++ '"' :: rest) = .ok (cs, rest) := by
  induction h with
  | nil =>
    change readChars ('"' :: rest) = _
    rw [readChars]
  | cons hc _ ih => rw [List.flatten_cons, List.append_assoc, readChars_word hc, ih, ok_bind]

theorem readText_spelled (h : TextSpelled t w) (rest : List Char) :
    readText (w ++ '"' :: rest) = .ok (t, rest) := by
  obtain ⟨words, hwords, rfl⟩ := h
  rw [readText, readChars_words hwords, ok_bind]
  exact congrArg (fun s => Except.ok (s, rest)) String.ofList_toList

theorem skipChars_words {words : List (List Char)} (h : List.Forall₂ CharSpelled cs words)
    (rest : List Char) : skipChars (words.flatten ++ '"' :: rest) = .ok ((), rest) := by
  induction h with
  | nil =>
    change skipChars ('"' :: rest) = _
    rw [skipChars]
  | cons hc _ ih => rw [List.flatten_cons, List.append_assoc, skipChars_word hc, ih]

theorem skipChars_spelled (h : TextSpelled t w) (rest : List Char) :
    skipChars (w ++ '"' :: rest) = .ok ((), rest) := by
  obtain ⟨words, hwords, rfl⟩ := h
  exact skipChars_words hwords rest

end RoutePlan.Json
