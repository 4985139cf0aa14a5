import Mathlib.Data.List.TakeWhile
import RoutePlan.Proofs.Regex.Kept

/-! # Bracketed classes in front of a closing parenthesis

A class that is read whole has its closing bracket, so what stands behind it plays no part. What
is no named class does not become one by a parenthesis behind it either, since no class has a
name with a parenthesis.
-/

namespace RoutePlan.Regex

open Text

variable {f : Flags}

/-! ## Named classes -/

theorem not_mem_of_namedClass? {name : List Char} {set : CharSet}
    (h : namedClass? name = some set) : ')' ∉ name := by
  have hname : ∀ s : String, String.ofList name = s → ')' ∉ s.toList → ')' ∉ name := by
    rintro s rfl hs
    rwa [String.toList_ofList] at hs
  unfold namedClass? at h
  split at h
  case h_15 => cases h
  all_goals exact hname _ ‹_› (by decide)

/-- The negation of a named class, and its name with what follows. -/
def namedBody (cs : List Char) : Bool × List Char :=
  match cs with
  | '^' :: rest => (true, rest)
  | _ => (false, cs)

theorem namedBody_close (cs tail : List Char) :
    namedBody (cs ++ ')' :: tail) = ((namedBody cs).1, (namedBody cs).2 ++ ')' :: tail) := by
  cases cs with
  | nil => rfl
  | cons c cs =>
    by_cases hc : c = '^'
    · subst hc
      rfl
    · simp [namedBody, hc]

/-- What is read after a colon. -/
def readNameOf (f : Flags) (negated : Bool) (rest : List Char) :
    Option (Option CharSet × List Char) :=
  match rest.dropWhile (· != ':') with
  | ':' :: ']' :: after =>
    (namedClass? (rest.takeWhile (· != ':'))).map fun set =>
      (f.settle? negated (f.widen set), after)
  | _ => none

theorem readNamed_colon (f : Flags) (rest : List Char) :
    readNamed f (':' :: rest) = readNameOf f (namedBody rest).1 (namedBody rest).2 :=
  rfl

theorem readNameOf_close (f : Flags) (negated : Bool) (rest tail : List Char) :
    readNameOf f negated (rest ++ ')' :: tail) =
      (readNameOf f negated rest).map fun x => (x.1, x.2 ++ ')' :: tail) := by
  unfold readNameOf
  cases hdrop : rest.dropWhile (· != ':') with
  | nil =>
    have hall := List.dropWhile_eq_nil_iff.mp hdrop
    have hmem : ')' ∈ (rest ++ ')' :: tail).takeWhile (· != ':') := by
      rw [List.takeWhile_append_of_pos hall, List.takeWhile_cons_of_pos (by decide)]
      exact List.mem_append_right _ List.mem_cons_self
    split
    · cases hclass : namedClass? ((rest ++ ')' :: tail).takeWhile (· != ':')) with
      | none => rfl
      | some set => exact absurd hmem (not_mem_of_namedClass? hclass)
    · rfl
  | cons c after =>
    obtain ⟨hdrop', htake⟩ := while_append hdrop (')' :: tail)
    rw [hdrop', htake]
    by_cases hc : c = ':'
    · subst hc
      cases after with
      | nil => rfl
      | cons d after =>
        by_cases hd : d = ']'
        · subst hd
          simp only [List.cons_append]
          rw [Option.map_map]
          rfl
        · simp [hd]
    · simp [hc]

theorem readNamed_close (f : Flags) (cs tail : List Char) :
    readNamed f (cs ++ ')' :: tail) =
      (readNamed f cs).map fun x => (x.1, x.2 ++ ')' :: tail) := by
  cases cs with
  | nil => rfl
  | cons c cs =>
    by_cases hc : c = ':'
    · subst hc
      simp only [List.cons_append, readNamed_colon, namedBody_close, readNameOf_close]
    · have hnone : ∀ rest, readNamed f (c :: rest) = none := by
        intro rest
        unfold readNamed
        split
        · rename_i hcolon
          exact absurd (List.cons.inj hcolon).1 hc
        · rfl
      rw [List.cons_append, hnone, hnone]
      rfl

/-! ## The beginning of a class -/

theorem skipBlanks_length_le (cs : List Char) :
    (Flags.skipBlanks cs).length ≤ cs.length ∧
      (Flags.skipBlanks.skipComment cs).length ≤ cs.length := by
  induction cs with
  | nil => exact ⟨Nat.le_refl 0, Nat.le_refl 0⟩
  | cons c cs ih =>
    rw [List.length_cons]
    constructor
    · rw [Flags.skipBlanks]
      split
      · exact Nat.le_succ_of_le ih.1
      · split
        · exact Nat.le_succ_of_le ih.2
        · exact Nat.le_refl _
    · by_cases hline : c = '\n'
      · subst hline
        exact Nat.le_succ_of_le ih.1
      · rw [Flags.skipBlanks.skipComment.eq_3 _ _ hline]
        exact Nat.le_succ_of_le ih.2

theorem Flags.skip_length_le (f : Flags) (cs : List Char) : (f.skip cs).length ≤ cs.length := by
  unfold skip
  split
  · exact (skipBlanks_length_le cs).1
  · exact Nat.le_refl _

theorem Flags.skip_nil (f : Flags) : f.skip [] = [] :=
  List.length_eq_zero_iff.mp (Nat.le_zero.mp (f.skip_length_le []))

theorem hyphens_nil (k : OpenClass) (fuel : Nat) : readOpening.hyphens f k [] fuel = (k, []) := by
  cases fuel <;> rfl

/-- Where something is left after the hyphens, what is behind it does not change them. -/
theorem hyphens_append {k k' : OpenClass} {cs rest : List Char} {c : Char} {fuel fuel' : Nat}
    (tail : List Char) (hfuel : cs.length ≤ fuel) (hfuel' : cs.length + tail.length ≤ fuel')
    (h : readOpening.hyphens f k cs fuel = (k', c :: rest)) :
    readOpening.hyphens f k (cs ++ tail) fuel' = (k', c :: rest ++ tail) := by
  induction fuel generalizing k cs fuel' with
  | zero =>
    obtain rfl := List.length_eq_zero_iff.mp (Nat.le_zero.mp hfuel)
    cases h
  | succ fuel ih =>
    cases cs with
    | nil => cases h
    | cons d cs =>
      rw [List.length_cons] at hfuel hfuel'
      obtain ⟨fuel', rfl⟩ : ∃ m, fuel' = m + 1 := ⟨fuel' - 1, by omega⟩
      unfold readOpening.hyphens at h ⊢
      split at h
      · rename_i heq
        cases heq
        have hne : f.skip cs ≠ [] := by
          intro hnil
          rw [hnil, hyphens_nil] at h
          cases h
        have hlength := f.skip_length_le cs
        have hrest := @ih _ (f.skip cs) fuel' (by omega) (by omega) h
        rw [← f.skip_append hne] at hrest
        exact hrest
      · rename_i heq
        cases heq
        split at h
        · obtain ⟨rfl, hskip⟩ := Prod.mk.inj h
          simp only [List.cons_append, f.skip_append_cons hskip]
          exact if_pos ‹_›
        · cases h
          exact if_neg ‹_›
      · rename_i hhyphen hbracket
        cases h
        split
        · rename_i heq
          exact absurd (List.cons.inj heq).1 fun hd => hhyphen rest (by rw [hd])
        · rename_i heq
          exact absurd (List.cons.inj heq).1 fun hd => hbracket rest (by rw [hd])
        · rfl

/-- The negation of a class, and what comes after it. -/
def openingBody (f : Flags) (cs : List Char) : Bool × List Char :=
  match cs with
  | '^' :: rest => (true, f.skip rest)
  | _ => (false, cs)

theorem openingBody_append {cs : List Char} (tail : List Char) (h : (openingBody f cs).2 ≠ []) :
    openingBody f (cs ++ tail) = ((openingBody f cs).1, (openingBody f cs).2 ++ tail) := by
  cases cs with
  | nil => exact absurd rfl h
  | cons c cs =>
    by_cases hc : c = '^'
    · subst hc
      exact congrArg (Prod.mk true) (f.skip_append h tail)
    · simp [openingBody, hc]

theorem readOpening_eq (f : Flags) (cs : List Char) :
    readOpening f cs = readOpening.hyphens f { negated := (openingBody f (f.skip cs)).1 }
      (openingBody f (f.skip cs)).2 (openingBody f (f.skip cs)).2.length :=
  rfl

theorem readOpening_append {k : OpenClass} {cs rest : List Char} {c : Char} (tail : List Char)
    (h : readOpening f cs = (k, c :: rest)) :
    readOpening f (cs ++ tail) = (k, c :: rest ++ tail) := by
  rw [readOpening_eq] at h
  have hbody : (openingBody f (f.skip cs)).2 ≠ [] := by
    intro hnil
    rw [hnil, hyphens_nil] at h
    cases h
  have hne : f.skip cs ≠ [] := by
    intro hnil
    rw [hnil] at hbody
    exact hbody rfl
  rw [readOpening_eq, f.skip_append hne, openingBody_append tail hbody]
  exact hyphens_append tail (Nat.le_refl _) (by rw [List.length_append]) h

/-! ## The items of a class -/

/-- An escape as an item of a class; an assertion is none. -/
def ClassItem.ofEscape? (f : Flags) : Escape → Option ClassItem
  | .literal c _ => if f.unicode || c.toNat < 128 then some (.literal c) else none
  | .set s => some (.set s)
  | .look _ => none

theorem readItem_backslash (f : Flags) (cs : List Char) :
    readItem f ('\\' :: cs) =
      (readEscape f cs).bind fun x => (ClassItem.ofEscape? f x.1).map (·, x.2) := by
  rw [readItem]
  cases readEscape f cs with
  | none => rfl
  | some x =>
    obtain ⟨escape, rest⟩ := x
    cases escape with
    | literal c byte =>
      simp only [ClassItem.ofEscape?, Option.bind_eq_bind, Option.bind_some]
      split <;> rfl
    | set s => rfl
    | look a => rfl

theorem keeps_readItem (f : Flags) : Keeps (readItem f) := by
  intro text rest a h
  cases text with
  | nil => cases h
  | cons c cs =>
    by_cases hc : c = '\\'
    · subst hc
      rw [readItem_backslash] at h
      obtain ⟨⟨escape, rest'⟩, hread, h⟩ := Option.bind_eq_some_iff.mp h
      obtain ⟨item, hitem, hpair⟩ := Option.map_eq_some_iff.mp h
      cases hpair
      refine (keeps_readEscape f hread).map fun tail rest hread' => ?_
      rw [List.cons_append, readItem_backslash, hread', Option.bind_some, hitem, Option.map_some]
    · have hliteral : ∀ cs, readItem f (c :: cs) =
          if f.unicode || c.toNat < 128 then some (.literal c, cs) else none := by
        intro cs
        simp [readItem]
      rw [hliteral] at h
      split at h
      · rename_i hbyte
        cases h
        refine Kept.done fun tail => ?_
        rw [List.cons_append, hliteral, if_pos hbyte]
      · cases h

/-- An item that stands alone. -/
def ClassItem.alone : ClassItem → CharSet
  | .literal c => .single c
  | .set s => s

/-- The characters between two items, with what is left behind them. -/
def ClassItem.between? (first last : ClassItem) (rest : List Char) :
    Option (CharSet × List Char) :=
  match first, last with
  | .literal lo, .literal hi => if lo ≤ hi then some (.between lo hi, rest) else none
  | _, _ => none

theorem ClassItem.between?_rest {first last : ClassItem} {set : CharSet} {rest rest' : List Char}
    (h : first.between? last rest = some (set, rest')) :
    rest' = rest ∧ ∀ more, first.between? last more = some (set, more) := by
  unfold between? at h ⊢
  split at h
  · split at h
    · cases h
      exact ⟨rfl, fun more => if_pos ‹_›⟩
    · cases h
  · cases h

/-- What is read after the first item of a range. -/
def readSecond (f : Flags) (first : ClassItem) (rest : List Char) :
    Option (CharSet × List Char) :=
  match f.skip rest with
  | [] => none
  | '-' :: after =>
    match f.skip after with
    | ']' :: _ | '-' :: _ => some (first.alone, f.skip rest)
    | after => (readItem f after).bind fun x => first.between? x.1 x.2
  | rest => some (first.alone, rest)

theorem readRange_eq (f : Flags) (cs : List Char) :
    readRange f cs = (readItem f cs).bind fun x => readSecond f x.1 x.2 :=
  rfl

theorem keeps_readSecond (f : Flags) (first : ClassItem) : Keeps (readSecond f first) := by
  intro text rest a h
  unfold readSecond at h
  cases hskip : f.skip text with
  | nil =>
    rw [hskip] at h
    cases h
  | cons c more =>
    rw [hskip] at h
    by_cases hc : c = '-'
    · subst hc
      cases hafter : f.skip more with
      | nil =>
        simp only [hafter] at h
        cases h
      | cons d after =>
        simp only [hafter] at h
        split at h
        case h_1 heq | h_2 heq =>
          cases heq
          cases h
          refine Kept.done fun tail => ?_
          unfold readSecond
          simp only [f.skip_append_cons hskip, f.skip_append_cons hafter, List.cons_append]
        case h_3 hbracket hhyphen =>
          obtain ⟨⟨last, rest'⟩, hitem, hbetween⟩ := Option.bind_eq_some_iff.mp h
          obtain ⟨rfl, hmore⟩ := ClassItem.between?_rest hbetween
          refine (keeps_readItem f hitem).map fun tail rest' hread => ?_
          unfold readSecond
          simp only [f.skip_append_cons hskip, f.skip_append_cons hafter]
          split
          · rename_i heq
            exact absurd (List.cons.inj heq).1 fun hd => hbracket after (by rw [hd])
          · rename_i heq
            exact absurd (List.cons.inj heq).1 fun hd => hhyphen after (by rw [hd])
          · rw [← List.cons_append, hread]
            exact hmore rest'
    · have halone : ∀ cs tail, f.skip cs = c :: tail →
          readSecond f first cs = some (first.alone, c :: tail) := by
        intro cs tail hcs
        unfold readSecond
        rw [hcs]
        split
        · rename_i heq
          cases heq
        · rename_i heq
          exact absurd (List.cons.inj heq).1 hc
        · rfl
      have hread := halone text more hskip
      unfold readSecond at hread
      rw [hskip, h] at hread
      cases hread
      exact Kept.done fun tail => halone _ _ (f.skip_append_cons hskip tail)

/-- An item at the end of the text begins no range, since nothing comes after it. -/
theorem keeps_readRange (f : Flags) : Keeps (readRange f) := by
  intro text rest a h
  rw [readRange_eq] at h
  obtain ⟨⟨first, rest'⟩, hitem, h⟩ := Option.bind_eq_some_iff.mp h
  have hitem' : ∀ tail, readItem f (text ++ ')' :: tail) = some (first, rest' ++ ')' :: tail) := by
    rcases keeps_readItem f hitem with hitem' | ⟨rfl, -⟩
    · exact hitem'
    · simp only [readSecond, f.skip_nil] at h
      cases h
  refine (keeps_readSecond f first h).map fun tail rest hread => ?_
  rw [readRange_eq, hitem', Option.bind_some]
  exact hread

/-! ## Whole classes -/

theorem readClasses_nil (f : Flags) (fuel : Nat) (k : OpenClass) (outer : List OpenClass) :
    readClasses f fuel k outer [] = none := by
  cases fuel with
  | zero => rfl
  | succ fuel => rw [readClasses, f.skip_nil]

/-- A character in front of the parenthesis stood there before. -/
theorem exists_cons_of_close {more tail rest : List Char} {d : Char}
    (h : more ++ ')' :: tail = d :: rest) (hd : d ≠ ')') : ∃ more', more = d :: more' := by
  cases more with
  | nil => exact absurd (List.cons.inj h).1.symm hd
  | cons e more =>
    obtain ⟨rfl, -⟩ := List.cons.inj h
    exact ⟨more, rfl⟩

/-- What comes next inside a class. -/
inductive ClassPiece where
  | item (set : CharSet)
  | opening (inner : OpenClass)
  | close
  | operation (o : SetOperation)

/-- A named class, or a class of its own that is opened. -/
def nextClass (f : Flags) (rest : List Char) : Option (ClassPiece × List Char) :=
  match readNamed f rest with
  | some (set?, rest) => set?.map (.item ·, rest)
  | none => some (.opening (readOpening f rest).1, (readOpening f rest).2)

/-- The next piece of a class, where no blanks are left to skip. -/
def nextClassPiece (f : Flags) (cs : List Char) : Option (ClassPiece × List Char) :=
  match cs with
  | [] => none
  | '[' :: rest => nextClass f rest
  | ']' :: rest => some (.close, rest)
  | '&' :: '&' :: rest => some (.operation .inter, rest)
  | '-' :: '-' :: rest => some (.operation .diff, rest)
  | '~' :: '~' :: rest => some (.operation .symmDiff, rest)
  | cs => (readRange f cs).map fun x => (.item x.1, x.2)

/-- Enter a piece of a class and read on. -/
def enterClass (f : Flags) (fuel : Nat) (k : OpenClass) (outer : List OpenClass) :
    ClassPiece × List Char → Option (CharSet × Nat × List Char)
  | (.item set, rest) => readClasses f fuel (k.push set) outer rest
  | (.opening inner, rest) => readClasses f fuel inner (k :: outer) rest
  | (.close, rest) => (k.close? f).bind fun x => match outer with
    | [] => some (x.1, x.2, rest)
    | k :: outer => readClasses f fuel (k.push x.1 x.2) outer rest
  | (.operation o, rest) => readClasses f fuel (k.operate f o) outer rest

theorem readNamed_eq_nextClass (f : Flags) (fuel : Nat) (k : OpenClass) (outer : List OpenClass)
    (rest : List Char) :
    (match readNamed f rest with
      | some (set?, rest) => do readClasses f fuel (k.push (← set?)) outer rest
      | none =>
        let (inner, rest) := readOpening f rest
        readClasses f fuel inner (k :: outer) rest) =
      (nextClass f rest).bind (enterClass f fuel k outer) := by
  unfold nextClass
  cases readNamed f rest with
  | none => rfl
  | some x =>
    obtain ⟨set?, rest⟩ := x
    cases set? <;> rfl

theorem readClasses_succ (f : Flags) (fuel : Nat) (k : OpenClass) (outer : List OpenClass)
    (cs : List Char) :
    readClasses f (fuel + 1) k outer cs =
      (nextClassPiece f (f.skip cs)).bind (enterClass f fuel k outer) := by
  unfold readClasses nextClassPiece
  generalize f.skip cs = skipped
  split
  · rfl
  · exact readNamed_eq_nextClass f fuel k outer _
  · rfl
  · rfl
  · rfl
  · rfl
  · simp only
    cases readRange f _ <;> rfl

/-- A piece with something left behind it is the same in front of a parenthesis. -/
theorem nextClassPiece_close {cs rest : List Char} {p : ClassPiece}
    (h : nextClassPiece f cs = some (p, rest)) (hrest : p = .close ∨ rest ≠ []) (tail : List Char) :
    nextClassPiece f (cs ++ ')' :: tail) = some (p, rest ++ ')' :: tail) := by
  unfold nextClassPiece at h
  split at h
  · cases h
  · rename_i more
    unfold nextClass at h
    simp only [List.cons_append, nextClassPiece, nextClass, readNamed_close]
    cases hnamed : readNamed f more with
    | none =>
      rw [hnamed] at h
      cases h
      have hne : (readOpening f more).2 ≠ [] := hrest.resolve_left fun hclose => by cases hclose
      obtain ⟨c, left, hleft⟩ := List.exists_cons_of_ne_nil hne
      have hopening : readOpening f more = ((readOpening f more).1, c :: left) := by rw [← hleft]
      simp only [Option.map_none, readOpening_append (')' :: tail) hopening, hleft]
    | some x =>
      obtain ⟨set?, left⟩ := x
      rw [hnamed] at h
      obtain ⟨set, rfl, hpair⟩ := Option.map_eq_some_iff.mp h
      cases hpair
      rfl
  · cases h
    rfl
  · cases h
    rfl
  · cases h
    rfl
  · cases h
    rfl
  · rename_i hnil hopen hclose hinter hdiff hsymm
    obtain ⟨⟨set, left⟩, hrange, hpair⟩ := Option.map_eq_some_iff.mp h
    cases hpair
    have hne : left ≠ [] := hrest.resolve_left fun hclose => by cases hclose
    have hrange' : readRange f (cs ++ ')' :: tail) = some (set, left ++ ')' :: tail) :=
      (keeps_readRange f hrange).resolve_right (fun h => hne h.1) tail
    unfold nextClassPiece
    split
    · rename_i heq
      simp at heq
    · rename_i heq
      obtain ⟨more, rfl⟩ := exists_cons_of_close heq (by decide)
      exact absurd rfl (hopen more)
    · rename_i heq
      obtain ⟨more, rfl⟩ := exists_cons_of_close heq (by decide)
      exact absurd rfl (hclose more)
    · rename_i heq
      obtain ⟨more, rfl⟩ := exists_cons_of_close heq (by decide)
      obtain ⟨more', rfl⟩ := exists_cons_of_close (List.cons.inj heq).2 (by decide)
      exact absurd rfl (hinter more')
    · rename_i heq
      obtain ⟨more, rfl⟩ := exists_cons_of_close heq (by decide)
      obtain ⟨more', rfl⟩ := exists_cons_of_close (List.cons.inj heq).2 (by decide)
      exact absurd rfl (hdiff more')
    · rename_i heq
      obtain ⟨more, rfl⟩ := exists_cons_of_close heq (by decide)
      obtain ⟨more', rfl⟩ := exists_cons_of_close (List.cons.inj heq).2 (by decide)
      exact absurd rfl (hsymm more')
    · rw [hrange', Option.map_some]

theorem readClasses_close {fuel : Nat} {k : OpenClass} {outer : List OpenClass}
    {cs rest : List Char} {set : CharSet} {height : Nat}
    (h : readClasses f fuel k outer cs = some (set, height, rest)) (extra : Nat)
    (tail : List Char) :
    readClasses f (fuel + extra) k outer (cs ++ ')' :: tail) =
      some (set, height, rest ++ ')' :: tail) := by
  induction fuel generalizing k outer cs with
  | zero => cases h
  | succ fuel ih =>
    rw [Nat.succ_add]
    rw [readClasses_succ] at h ⊢
    obtain ⟨⟨p, left⟩, hpiece, h⟩ := Option.bind_eq_some_iff.mp h
    have hskip : f.skip cs ≠ [] := by
      intro hnil
      rw [hnil] at hpiece
      cases hpiece
    have hleft : p = .close ∨ left ≠ [] := by
      rw [or_iff_not_imp_left]
      rintro hclose rfl
      cases p with
      | close => exact hclose rfl
      | item _ | opening _ | operation _ => simp [enterClass, readClasses_nil] at h
    rw [f.skip_append hskip, nextClassPiece_close hpiece hleft, Option.bind_some]
    cases p with
    | item set => exact ih h
    | opening inner => exact ih h
    | operation o => exact ih h
    | close =>
      obtain ⟨⟨set', height'⟩, hclose, h⟩ := Option.bind_eq_some_iff.mp h
      simp only [enterClass, hclose, Option.bind_some]
      cases outer with
      | nil =>
        cases h
        rfl
      | cons k' outer => exact ih h

theorem readClass_close {cs rest : List Char} {set : CharSet} {height : Nat}
    (h : readClass f cs = some (set, height, rest)) (tail : List Char) :
    readClass f (cs ++ ')' :: tail) = some (set, height, rest ++ ')' :: tail) := by
  obtain ⟨⟨k, left⟩, hopening⟩ : ∃ x, readOpening f cs = x := ⟨_, rfl⟩
  unfold readClass at h ⊢
  simp only [hopening] at h
  cases left with
  | nil =>
    rw [readClasses_nil] at h
    cases h
  | cons c left =>
    simp only [readOpening_append (')' :: tail) hopening]
    have hclose := readClasses_close h (tail.length + 1) tail
    rw [Nat.add_right_comm] at hclose
    rw [List.length_append, List.length_cons]
    exact hclose

end RoutePlan.Regex
