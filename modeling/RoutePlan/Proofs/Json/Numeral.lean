import RoutePlan.Proofs.Json.Spelling

/-! # Numerals

The texts of numbers. A numeral is read by gathering digits into a machine word first; what comes
of it does not change with what stands behind the numeral, as long as that does not go on it.
Skipping checks the shape of a numeral and finds the same end.
-/

namespace RoutePlan.Json

variable {c : Char} {ds rest w : List Char} {n : Nat} {x : Number}

def IsDigits (s : List Char) : Prop := s ≠ [] ∧ ∀ c ∈ s, isDigit c = true

/-- The digits before the point. Only zero itself begins with a zero. -/
inductive IsWhole : List Char → Prop
  | zero : IsWhole ['0']
  | digits {c : Char} {ds : List Char} (h : IsDigits (c :: ds)) (hzero : c ≠ '0') :
    IsWhole (c :: ds)

inductive IsFraction : List Char → Prop
  | none : IsFraction []
  | some {ds : List Char} (h : IsDigits ds) : IsFraction ('.' :: ds)

inductive IsExponent : List Char → Prop
  | none : IsExponent []
  | some {mark : Char} {sign ds : List Char} (hmark : mark = 'e' ∨ mark = 'E')
    (hsign : sign = [] ∨ sign = ['+'] ∨ sign = ['-']) (h : IsDigits ds) :
    IsExponent (mark :: (sign ++ ds))

inductive IsNumeral : List Char → Prop
  | parts {sign whole fraction exponent : List Char} (hsign : sign = [] ∨ sign = ['-'])
    (hwhole : IsWhole whole) (hfraction : IsFraction fraction)
    (hexponent : IsExponent exponent) : IsNumeral (sign ++ (whole ++ (fraction ++ exponent)))

/-- A numeral whose number is not out of range. -/
def NumberSpelled (x : Number) (w : List Char) : Prop :=
  IsNumeral w ∧ readNumber w = .ok (x, [])

/-- A text that does not go on a numeral in front of it. -/
def Breaks (s : List Char) : Prop :=
  ∀ c ∈ s.head?, isDigit c = false ∧ c ≠ '.' ∧ c ≠ 'e' ∧ c ≠ 'E'

theorem Breaks.head {s : List Char} (h : Breaks (c :: s)) :
    isDigit c = false ∧ c ≠ '.' ∧ c ≠ 'e' ∧ c ≠ 'E' :=
  h c rfl

theorem takeWhile_digits_append (h : Breaks rest) (s : List Char) :
    (s ++ rest).takeWhile isDigit = s.takeWhile isDigit := by
  induction s with
  | nil =>
    cases rest with
    | nil => rfl
    | cons c rest => simp [h.head.1]
  | cons c s ih => simp only [List.cons_append, List.takeWhile_cons, ih]

theorem dropWhile_digits_append (h : Breaks rest) (s : List Char) :
    (s ++ rest).dropWhile isDigit = s.dropWhile isDigit ++ rest := by
  induction s with
  | nil =>
    cases rest with
    | nil => rfl
    | cons c rest => simp [h.head.1]
  | cons c s ih =>
    simp only [List.cons_append, List.dropWhile_cons, ih]
    split <;> rfl

theorem gather_append (h : Breaks rest) (n : Nat) (s : List Char) :
    gather n (s ++ rest) = ((gather n s).1, (gather n s).2.1, (gather n s).2.2 ++ rest) := by
  induction s generalizing n with
  | nil =>
    cases rest with
    | nil => rfl
    | cons c rest => simp [gather, h.head.1]
  | cons c s ih =>
    simp only [List.cons_append, gather, ih]
    split <;> rfl

/-- The sign of an exponent, up where none is written, and what follows it. -/
def exponentSign : List Char → Bool × List Char
  | '+' :: rest => (true, rest)
  | '-' :: rest => (false, rest)
  | s => (true, s)

/-- The number with an exponent of this size. -/
def withSize (positive : Bool) (n : Nat) (e : Int) (up : Bool) (size : Nat) :
    Except ReadFault Number :=
  if size ≥ exponentBound ∧ up ∧ n ≠ 0 then .error .malformed
  else if size ≥ exponentBound then .ok (.real (if positive then 0 else -0))
  else realOf positive n (if up then e + size else e - size)

/-- An exponent after its sign. -/
def readSize (positive : Bool) (n : Nat) (e : Int) (up : Bool) (s : List Char) :
    Except ReadFault (Number × List Char) :=
  if (s.takeWhile isDigit).isEmpty then
    .error (if (s.dropWhile isDigit).isEmpty then .ended else .malformed)
  else do
    let x ← withSize positive n e up
      ((s.takeWhile isDigit).foldl (fun acc c => acc * 10 + digitValue c) 0)
    return (x, s.dropWhile isDigit)

theorem readExponent_eq (positive : Bool) (n : Nat) (e : Int) (s : List Char) :
    readExponent positive n e s =
      readSize positive n e (exponentSign s).1 (exponentSign s).2 := by
  unfold readExponent readSize withSize
  split
  rename_i up s' h
  have h' : exponentSign s = (up, s') := by
    rw [← h]
    rfl
  rw [h']
  simp only
  split
  · split <;> rfl
  · split
    · rfl
    · split <;> rfl

theorem readSize_append (hrest : Breaks rest) {positive up : Bool} {e : Int}
    {s after : List Char} (h : readSize positive n e up s = .ok (x, after)) :
    readSize positive n e up (s ++ rest) = .ok (x, after ++ rest) := by
  unfold readSize at h ⊢
  rw [takeWhile_digits_append hrest, dropWhile_digits_append hrest]
  split at h
  · cases h
  · rename_i hdigits
    obtain ⟨y, hy, hdone⟩ := exists_of_bind_eq_ok h
    cases hdone
    rw [if_neg hdigits, hy]
    rfl

theorem readExponent_append (hrest : Breaks rest) {positive : Bool} {e : Int}
    {s after : List Char} (h : readExponent positive n e s = .ok (x, after)) :
    readExponent positive n e (s ++ rest) = .ok (x, after ++ rest) := by
  rw [readExponent_eq] at h ⊢
  have hsign : s ≠ [] := by
    rintro rfl
    cases h
  have happend : exponentSign (s ++ rest) = ((exponentSign s).1, (exponentSign s).2 ++ rest) := by
    cases s with
    | nil => exact absurd rfl hsign
    | cons c s =>
      rw [List.cons_append]
      unfold exponentSign
      split <;> simp_all
  rw [happend]
  exact readSize_append hrest h

theorem readPower_append (hrest : Breaks rest) {positive : Bool} {e : Int}
    {s after : List Char} (h : readPower positive n e s = .ok (x, after)) :
    readPower positive n e (s ++ rest) = .ok (x, after ++ rest) := by
  unfold readPower at h
  split at h
  · exact readExponent_append hrest h
  · exact readExponent_append hrest h
  · rename_i hlower hupper
    obtain ⟨y, hy, hdone⟩ := exists_of_bind_eq_ok h
    cases hdone
    have hhead : ∀ after : List Char, s ++ rest ≠ 'e' :: after ∧ s ++ rest ≠ 'E' :: after := by
      intro after
      cases s with
      | nil =>
        constructor
        · rintro rfl
          exact hrest.head.2.2.1 rfl
        · rintro rfl
          exact hrest.head.2.2.2 rfl
      | cons c s =>
        constructor
        · rintro ⟨⟩
          exact hlower _ rfl
        · rintro ⟨⟩
          exact hupper _ rfl
    unfold readPower
    split
    · exact absurd ‹_› (hhead _).1
    · exact absurd ‹_› (hhead _).2
    · rw [hy]
      rfl

theorem readFraction_eq (positive : Bool) (n : Nat) (e : Int) (s : List Char) :
    readFraction positive n e s =
      if (s.takeWhile isDigit).isEmpty then .error (if s.isEmpty then .ended else .malformed)
      else readPower positive (gather n s).1 (e - (gather n s).2.1)
        ((gather n s).2.2.dropWhile isDigit) := by
  unfold readFraction
  simp only
  split
  · split <;> rfl
  · rfl

theorem readFraction_append (hrest : Breaks rest) {positive : Bool} {e : Int}
    {s after : List Char} (h : readFraction positive n e s = .ok (x, after)) :
    readFraction positive n e (s ++ rest) = .ok (x, after ++ rest) := by
  rw [readFraction_eq] at h ⊢
  rw [gather_append hrest, takeWhile_digits_append hrest]
  simp only [dropWhile_digits_append hrest]
  split at h
  · cases h
  · rename_i hdigits
    rw [if_neg hdigits]
    exact readPower_append hrest h

/-- What follows the whole part of a number: `m` is its value as far as gathered, and `beyond`
holds the digits after those. -/
def readTail (positive : Bool) (m : Nat) (beyond : List Char) :
    List Char → Except ReadFault (Number × List Char)
  | '.' :: after => readFraction positive m beyond.length after
  | after =>
    if beyond.isEmpty ∧ after.head? ≠ some 'e' ∧ after.head? ≠ some 'E' then
      .ok (integerOf positive m, after)
    else readPower positive m beyond.length after

theorem readTail_append (hrest : Breaks rest) {positive : Bool} {m : Nat} {beyond : List Char}
    {s after : List Char} (h : readTail positive m beyond s = .ok (x, after)) :
    readTail positive m beyond (s ++ rest) = .ok (x, after ++ rest) := by
  unfold readTail at h
  split at h
  · exact readFraction_append hrest h
  · rename_i hpoint
    have hpoint' : ∀ after : List Char, s ++ rest ≠ '.' :: after := by
      intro after
      cases s with
      | nil =>
        rintro rfl
        exact hrest.head.2.1 rfl
      | cons c s =>
        rintro ⟨⟩
        exact hpoint _ rfl
    have hhead : ((s ++ rest).head? ≠ some 'e' ∧ (s ++ rest).head? ≠ some 'E') ↔
        s.head? ≠ some 'e' ∧ s.head? ≠ some 'E' := by
      cases s with
      | nil =>
        have hbreak : rest.head? ≠ some 'e' ∧ rest.head? ≠ some 'E' :=
          ⟨fun h => (hrest _ h).2.2.1 rfl, fun h => (hrest _ h).2.2.2 rfl⟩
        simpa using hbreak
      | cons c s => rfl
    rw [readTail.eq_2 _ _ _ _ hpoint']
    split at h
    · rename_i hplain
      cases h
      rw [if_pos ⟨hplain.1, hhead.2 hplain.2⟩]
    · rename_i hplain
      rw [if_neg fun h => hplain ⟨h.1, hhead.1 h.2⟩]
      exact readPower_append hrest h

theorem readUnsigned_eq (positive : Bool) (s : List Char) :
    readUnsigned positive s =
      match s.head? with
      | none => .error .ended
      | some c =>
        if !isDigit c then .error .malformed
        else if c = '0' ∧ (gather 0 s).2.1 > 1 then .error .malformed
        else readTail positive (gather 0 s).1 ((gather 0 s).2.2.takeWhile isDigit)
          ((gather 0 s).2.2.dropWhile isDigit) := by
  cases s with
  | nil => rfl
  | cons c s =>
    simp only [readUnsigned, List.head?_cons]
    split
    · rfl
    · split
      · rfl
      · rfl

theorem readUnsigned_append (hrest : Breaks rest) {positive : Bool} {s after : List Char}
    (h : readUnsigned positive s = .ok (x, after)) :
    readUnsigned positive (s ++ rest) = .ok (x, after ++ rest) := by
  rw [readUnsigned_eq] at h ⊢
  cases s with
  | nil => cases h
  | cons c s =>
    rw [gather_append hrest, List.cons_append, List.head?_cons]
    simp only [takeWhile_digits_append hrest, dropWhile_digits_append hrest, List.head?_cons] at h ⊢
    split at h
    · cases h
    · split at h
      · cases h
      · rw [if_neg ‹_›, if_neg ‹_›]
        exact readTail_append hrest h

/-- The number of a numeral is read in front of whatever does not go on the numeral. -/
theorem readNumber_append (hrest : Breaks rest) {s after : List Char}
    (h : readNumber s = .ok (x, after)) : readNumber (s ++ rest) = .ok (x, after ++ rest) := by
  unfold readNumber at h
  split at h
  · exact readUnsigned_append hrest h
  · rename_i hsign
    have hread := readUnsigned_append hrest h
    cases s with
    | nil => cases h
    | cons c s =>
      unfold readNumber
      split
      · rename_i heq
        cases heq
        exact absurd rfl (hsign _)
      · exact hread

theorem readNumber_spelled (h : NumberSpelled x w) (hrest : Breaks rest) :
    readNumber (w ++ rest) = .ok (x, rest) :=
  readNumber_append hrest h.2

/-! ## Skipping -/

/-- A run of digits ends where no digit follows. -/
theorem skipDigits_append (h : IsDigits ds) {tail : List Char}
    (htail : ∀ c ∈ tail.head?, isDigit c = false) :
    (ds ++ tail).takeWhile isDigit = ds ∧ skipDigits (ds ++ tail) = .ok ((), tail) := by
  have hnone : tail.takeWhile isDigit = [] ∧ tail.dropWhile isDigit = tail := by
    cases tail with
    | nil => exact ⟨rfl, rfl⟩
    | cons c tail => simp [htail c rfl]
  have htake : (ds ++ tail).takeWhile isDigit = ds := by
    rw [List.takeWhile_append_of_pos h.2, hnone.1, List.append_nil]
  have hdrop : (ds ++ tail).dropWhile isDigit = tail := by
    rw [List.dropWhile_append_of_pos h.2, hnone.2]
  refine ⟨htake, ?_⟩
  rw [skipDigits, htake, hdrop, if_neg (by simpa using h.1)]

theorem ne_sign_of_isDigit (h : isDigit c = true) : c ≠ '+' ∧ c ≠ '-' := by
  constructor <;>
  · rintro rfl
    cases h

theorem skipExponent_of_breaks (h : Breaks rest) : skipExponent rest = .ok ((), rest) := by
  cases rest with
  | nil => rfl
  | cons c rest =>
    obtain ⟨-, -, hlower, hupper⟩ := h.head
    unfold skipExponent
    split
    · rename_i heq
      cases heq
      exact absurd rfl hlower
    · rename_i heq
      cases heq
      exact absurd rfl hupper
    · rfl

theorem skipExponent_mark {mark : Char} (h : mark = 'e' ∨ mark = 'E') (s : List Char) :
    skipExponent (mark :: s) = skipDigits (exponentSign s).2 := by
  rcases h with rfl | rfl <;>
  · simp only [skipExponent]
    split
    · rfl
    · rfl
    · rename_i hplus hminus
      rw [exponentSign.eq_3 s hplus hminus]

theorem exponentSign_digits (h : IsDigits ds) (s : List Char) :
    exponentSign (ds ++ s) = (true, ds ++ s) := by
  obtain ⟨hne, hall⟩ := h
  cases ds with
  | nil => exact absurd rfl hne
  | cons d ds =>
    obtain ⟨hplus, hminus⟩ := ne_sign_of_isDigit (hall d List.mem_cons_self)
    exact exponentSign.eq_3 _ (fun _ heq => hplus (List.cons.inj heq).1)
      fun _ heq => hminus (List.cons.inj heq).1

theorem skipExponent_append (h : IsExponent w) (hrest : Breaks rest) :
    skipExponent (w ++ rest) = .ok ((), rest) := by
  cases h with
  | none => exact skipExponent_of_breaks hrest
  | @some mark sign ds hmark hsign hds =>
    have hskip := (skipDigits_append hds fun c hc => (hrest c hc).1).2
    rw [List.cons_append, List.append_assoc, skipExponent_mark hmark]
    rcases hsign with rfl | rfl | rfl
    · rw [List.nil_append, exponentSign_digits hds]
      exact hskip
    · exact hskip
    · exact hskip

theorem head?_fraction (h : IsFraction w) {tail : List Char}
    (htail : ∀ c ∈ tail.head?, isDigit c = false) : ∀ c ∈ (w ++ tail).head?, isDigit c = false := by
  cases h with
  | none => exact htail
  | some h =>
    rintro c ⟨⟩
    rfl

theorem head?_exponent (h : IsExponent w) (hrest : Breaks rest) :
    ∀ c ∈ (w ++ rest).head?, isDigit c = false ∧ c ≠ '.' := by
  cases h with
  | none => exact fun c hc => ⟨(hrest c hc).1, (hrest c hc).2.1⟩
  | some hmark hsign h =>
    rintro c ⟨⟩
    rcases hmark with rfl | rfl <;> exact ⟨rfl, by decide⟩

theorem IsWhole.isDigits (h : IsWhole w) : IsDigits w := by
  cases h with
  | zero => exact ⟨by simp, by simp [isDigit]⟩
  | digits h hzero => exact h

/-- What is skipped behind the whole part of a number. -/
def skipTail : List Char → Except ReadFault (Unit × List Char)
  | '.' :: rest => do
    let ((), rest) ← skipDigits rest
    skipExponent rest
  | rest => skipExponent rest

/-- A number that is skipped, after its sign. -/
def skipUnsigned (s : List Char) : Except ReadFault (Unit × List Char) := do
  let ((), rest) ← skipDigits s
  if s.head? = some '0' ∧ (s.takeWhile isDigit).length > 1 then .error .malformed
  else skipTail rest

theorem skipNumber_minus (s : List Char) : skipNumber ('-' :: s) = skipUnsigned s := by
  rfl

theorem skipNumber_unsigned (h : c ≠ '-') (s : List Char) :
    skipNumber (c :: s) = skipUnsigned (c :: s) := by
  have hsame := skipNumber_minus (c :: s)
  unfold skipNumber at hsame ⊢
  split
  · rename_i heq
    cases heq
    exact absurd rfl h
  · exact hsame

theorem skipTail_append (hfraction : IsFraction ds) (hexponent : IsExponent w)
    (hrest : Breaks rest) : skipTail (ds ++ (w ++ rest)) = .ok ((), rest) := by
  have hhead := head?_exponent hexponent hrest
  have hskip := skipExponent_append hexponent hrest
  cases hfraction with
  | none =>
    rw [List.nil_append, skipTail.eq_2]
    · exact hskip
    · intro after heq
      rw [heq] at hhead
      exact (hhead '.' rfl).2 rfl
  | some h =>
    rw [List.cons_append, skipTail, (skipDigits_append h fun c hc => (hhead c hc).1).2, ok_bind]
    exact hskip

theorem skipUnsigned_append (h : IsWhole ds) {tail : List Char}
    (htail : ∀ c ∈ tail.head?, isDigit c = false) (hskip : skipTail tail = .ok ((), rest)) :
    skipUnsigned (ds ++ tail) = .ok ((), rest) := by
  obtain ⟨htake, hdigits⟩ := skipDigits_append h.isDigits htail
  have hzero : ¬((ds ++ tail).head? = some '0' ∧ ds.length > 1) := by
    cases h with
    | zero => simp
    | digits h hzero => simp [hzero]
  rw [skipUnsigned, hdigits, ok_bind, htake]
  exact (if_neg hzero).trans hskip

/-- A numeral is skipped in front of whatever does not go on the numeral. -/
theorem skipNumber_append (h : IsNumeral w) (hrest : Breaks rest) :
    skipNumber (w ++ rest) = .ok ((), rest) := by
  obtain @⟨sign, whole, fraction, exponent, hsign, hwhole, hfraction, hexponent⟩ := h
  have hunsigned := skipUnsigned_append hwhole (head?_fraction hfraction fun c hc =>
    (head?_exponent hexponent hrest c hc).1) (skipTail_append hfraction hexponent hrest)
  simp only [List.append_assoc]
  rcases hsign with rfl | rfl
  · obtain ⟨hne, hall⟩ := hwhole.isDigits
    cases whole with
    | nil => exact absurd rfl hne
    | cons c whole =>
      have hminus := (ne_sign_of_isDigit (hall c List.mem_cons_self)).2
      exact (skipNumber_unsigned hminus _).trans hunsigned
  · exact (skipNumber_minus _).trans hunsigned

end RoutePlan.Json
