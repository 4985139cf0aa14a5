import RoutePlan.Proofs.Regex.Kept.Bracket

/-! # Pieces in front of a closing parenthesis

What the next piece of a pattern is depends on the flags alone. So reading a piece falls into
two steps: the piece is found in the text, and it is entered into the reading. The first step is
the same in front of a closing parenthesis.
-/

namespace RoutePlan.Regex

open Text

/-- The next piece of a pattern, before it is entered into the reading. -/
inductive Piece where
  | numbered
  | named (name : List Char)
  | plain (flags : Flags)
  | setFlags (flags : Flags)
  | close
  | split
  | expr (e : Expr) (height : Nat)
  | repetition (least : Nat) (most : Option Nat) (lazy : Bool)

def Piece.enter (r : Reading) : Piece → Option Reading
  | .numbered => some (r.openGroup (some (r.groups + 1)) r.flags)
  | .named name =>
    if r.names.contains name then none
    else some ({ r with names := name :: r.names }.openGroup (some (r.groups + 1)) r.flags)
  | .plain flags => some (r.openGroup none flags)
  | .setFlags flags => some { r with flags, level := r.level.pushFlags }
  | .close => r.closeGroup?
  | .split => some { r with level := r.level.split }
  | .expr e height => some (r.push e height)
  | .repetition least most lazy => r.repeat? least most lazy

def nextNamed (cs : List Char) : Option (Piece × List Char) :=
  (readName cs).map fun x => (.named x.1, x.2)

/-- What follows a question mark behind an opening parenthesis. -/
def nextExtension (f : Flags) (cs : List Char) : Option (Piece × List Char) :=
  match cs with
  | 'P' :: '<' :: rest => nextNamed rest
  | '<' :: '=' :: _ | '<' :: '!' :: _ => none
  | '<' :: rest => nextNamed rest
  | _ =>
    (readFlags f [] false cs).map fun x =>
      (if x.2.1 = ')' then .setFlags x.1 else .plain x.1, x.2.2)

def nextGroup (f : Flags) (cs : List Char) : Option (Piece × List Char) :=
  match f.skip cs with
  | '?' :: rest => nextExtension f rest
  | cs => some (.numbered, cs)

/-- The bounds of a repetition, and whether it is lazy. -/
def nextRepetition (f : Flags) (cs : List Char) : Option (Piece × List Char) :=
  (readRepetition f cs).map fun x =>
    (.repetition x.1 x.2.1 (readLazy x.2.2).1, (readLazy x.2.2).2)

/-- An escape as a piece of its own. -/
def Piece.ofEscape? (f : Flags) : Escape → Option Piece
  | .literal c byte =>
    if byte && !f.unicode && c.toNat ≥ 128 then none else some (.expr (f.literal c) 0)
  | .set s => some (.expr (.chars s) 0)
  | .look a => some (.expr (.look a) 0)

def nextPiece (f : Flags) : List Char → Option (Piece × List Char)
  | [] => none
  | c :: rest =>
    let operator (least : Nat) (most : Option Nat) : Option (Piece × List Char) :=
      some (.repetition least most (readLazy rest).1, (readLazy rest).2)
    match c with
    | '(' => nextGroup f rest
    | ')' => some (.close, rest)
    | '|' => some (.split, rest)
    | '[' => (readClass f rest).map fun x => (.expr (.chars x.1) x.2.1, x.2.2)
    | '?' => operator 0 (some 1)
    | '*' => operator 0 none
    | '+' => operator 1 none
    | '\x7b' => nextRepetition f rest
    | '\\' => (readEscape f rest).bind fun x => (Piece.ofEscape? f x.1).map (·, x.2)
    | '.' => f.dot?.map fun set => (.expr (.chars set) 0, rest)
    | '^' => some (.expr (.look f.lineStart) 0, rest)
    | '$' => some (.expr (.look f.lineEnd) 0, rest)
    | c => some (.expr (f.literal c) 0, rest)

/-! ## The two steps -/

/-- Enter a piece that has been found. -/
def Reading.enter (r : Reading) (x : Piece × List Char) : Option (Reading × List Char) :=
  (x.1.enter r).map (·, x.2)

theorem readNamed_eq (r : Reading) (cs : List Char) :
    ((readName cs).bind fun x => if r.names.contains x.1 then none
      else some ({ r with names := x.1 :: r.names }.openGroup (some (r.groups + 1)) r.flags, x.2)) =
        (nextNamed cs).bind r.enter := by
  unfold nextNamed
  cases readName cs with
  | none => rfl
  | some x =>
    simp only [Option.bind_some, Option.map_some, Reading.enter, Piece.enter]
    split <;> rfl

theorem readExtension_eq (r : Reading) (cs : List Char) :
    ((readFlags r.flags [] false cs).bind fun x => match x with
      | (flags, ')', rest) => some ({ r with flags, level := r.level.pushFlags }, rest)
      | (flags, _, rest) => some (r.openGroup none flags, rest)) =
        ((readFlags r.flags [] false cs).map fun x =>
          (if x.2.1 = ')' then Piece.setFlags x.1 else .plain x.1, x.2.2)).bind r.enter := by
  cases readFlags r.flags [] false cs with
  | none => rfl
  | some x =>
    obtain ⟨flags, c, rest⟩ := x
    by_cases hc : c = ')'
    · subst hc
      rfl
    · simp [hc, Reading.enter, Piece.enter]

theorem readGroup_eq (r : Reading) (cs : List Char) :
    readGroup r cs = (nextGroup r.flags cs).bind r.enter := by
  unfold readGroup nextGroup nextExtension
  generalize r.flags.skip cs = skipped
  split
  · exact readNamed_eq r _
  · rfl
  · rfl
  · simp only
    exact readNamed_eq r _
  · simp only
    exact readExtension_eq r _
  · simp only
    rfl

theorem readRepetition_eq (r : Reading) (cs : List Char) :
    ((readRepetition r.flags cs).bind fun x =>
      (r.repeat? x.1 x.2.1 (readLazy x.2.2).1).bind fun s => some (s, (readLazy x.2.2).2)) =
        (nextRepetition r.flags cs).bind r.enter := by
  unfold nextRepetition
  cases readRepetition r.flags cs with
  | none => rfl
  | some x =>
    simp only [Option.bind_some, Option.map_some, Reading.enter, Piece.enter]
    cases r.repeat? x.1 x.2.1 (readLazy x.2.2).1 <;> rfl

theorem readPiece_eq (r : Reading) (cs : List Char) :
    readPiece r cs = (nextPiece r.flags cs).bind r.enter := by
  cases cs with
  | nil => rfl
  | cons c rest =>
    have hoperator : ∀ least most, ((r.repeat? least most (readLazy rest).1).bind fun s =>
        some (s, (readLazy rest).2)) =
          r.enter (.repetition least most (readLazy rest).1, (readLazy rest).2) := by
      intro least most
      simp only [Reading.enter, Piece.enter]
      cases r.repeat? least most (readLazy rest).1 <;> rfl
    unfold readPiece nextPiece
    simp only
    split
    · exact readGroup_eq r rest
    · rfl
    · rfl
    · cases readClass r.flags rest <;> rfl
    · exact hoperator 0 (some 1)
    · exact hoperator 0 none
    · exact hoperator 1 none
    · exact readRepetition_eq r rest
    · cases readEscape r.flags rest with
      | none => rfl
      | some x =>
        obtain ⟨escape, rest'⟩ := x
        cases escape with
        | literal c byte =>
          simp only [Option.bind_eq_bind, Option.bind_some, Piece.ofEscape?]
          split <;> rfl
        | set s => rfl
        | look a => rfl
    · cases r.flags.dot? <;> rfl
    · rfl
    · rfl
    · simp only [Option.bind_some, Reading.enter, Piece.enter, Option.map_some]

/-! ## Groups -/

variable {f : Flags}

theorem readName_append {cs name rest : List Char} (h : readName cs = some (name, rest))
    (tail : List Char) : readName (cs ++ tail) = some (name, rest ++ tail) := by
  simp only [readName] at h ⊢
  split at h
  · rename_i hname hrest
    obtain ⟨hdrop, htake⟩ := while_append hrest tail
    rw [htake, hdrop, hname]
    split at h
    · rename_i hparts
      cases h
      rw [hname]
      exact if_pos hparts
    · cases h
  · cases h

theorem readFlags_append {cs named rest : List Char} {turnedOff : Bool} {flags : Flags} {c : Char}
    (h : readFlags f named turnedOff cs = some (flags, c, rest)) (tail : List Char) :
    readFlags f named turnedOff (cs ++ tail) = some (flags, c, rest ++ tail) := by
  induction cs generalizing f named turnedOff with
  | nil => cases h
  | cons d cs ih =>
    rw [List.cons_append]
    rw [readFlags] at h ⊢
    split at h
    · rename_i hend
      rw [if_pos hend]
      split at h
      · cases h
      · rename_i hnamed
        cases h
        exact if_neg hnamed
    · rename_i hend
      rw [if_neg hend]
      split at h
      · cases h
      · rename_i hnamed
        rw [if_neg hnamed]
        split at h
        · rename_i hhyphen
          rw [if_pos hhyphen]
          exact ih h
        · rename_i hhyphen
          rw [if_neg hhyphen]
          obtain ⟨flags', hset, h⟩ := Option.bind_eq_some_iff.mp h
          simp only [hset]
          exact ih h

theorem nextNamed_append {cs rest : List Char} {p : Piece} (h : nextNamed cs = some (p, rest))
    (tail : List Char) : nextNamed (cs ++ tail) = some (p, rest ++ tail) := by
  obtain ⟨⟨name, rest'⟩, hname, hpair⟩ := Option.map_eq_some_iff.mp h
  cases hpair
  rw [nextNamed, readName_append hname, Option.map_some]

theorem nextExtension_close {cs rest : List Char} {p : Piece}
    (h : nextExtension f cs = some (p, rest)) (tail : List Char) :
    nextExtension f (cs ++ ')' :: tail) = some (p, rest ++ ')' :: tail) := by
  unfold nextExtension at h
  split at h
  · exact nextNamed_append h _
  · cases h
  · cases h
  · rename_i more hequal hbang
    have hname : nextExtension f ('<' :: (more ++ ')' :: tail)) =
        nextNamed (more ++ ')' :: tail) := by
      unfold nextExtension
      split
      · rename_i heq
        cases heq
      · rename_i heq
        obtain ⟨more', rfl⟩ := exists_cons_of_close (List.cons.inj heq).2 (by decide)
        exact absurd rfl (hequal more')
      · rename_i heq
        obtain ⟨more', rfl⟩ := exists_cons_of_close (List.cons.inj heq).2 (by decide)
        exact absurd rfl (hbang more')
      · rename_i heq
        cases heq
        rfl
      · rename_i hangle
        exact absurd rfl (hangle _)
    rw [List.cons_append, hname]
    exact nextNamed_append h _
  · rename_i hnamed hequal hbang hangle
    obtain ⟨⟨flags, c, rest'⟩, hflags, hpair⟩ := Option.map_eq_some_iff.mp h
    cases hpair
    unfold nextExtension
    split
    · rename_i heq
      obtain ⟨more, rfl⟩ := exists_cons_of_close heq (by decide)
      obtain ⟨more', rfl⟩ := exists_cons_of_close (List.cons.inj heq).2 (by decide)
      exact absurd rfl (hnamed more')
    · rename_i heq
      obtain ⟨more, rfl⟩ := exists_cons_of_close heq (by decide)
      exact absurd rfl (hangle more)
    · rename_i heq
      obtain ⟨more, rfl⟩ := exists_cons_of_close heq (by decide)
      exact absurd rfl (hangle more)
    · rename_i heq
      obtain ⟨more, rfl⟩ := exists_cons_of_close heq (by decide)
      exact absurd rfl (hangle more)
    · rw [readFlags_append hflags, Option.map_some]

theorem keeps_nextGroup (f : Flags) : Keeps (nextGroup f) := by
  intro text rest p h
  unfold nextGroup at h
  cases hskip : f.skip text with
  | nil =>
    rw [hskip] at h
    cases h
    refine (f.skip_kept text).imp (fun h tail => ?_) fun ⟨_, h⟩ => ⟨rfl, ?_⟩
    · unfold nextGroup
      rw [h, hskip]
      rfl
    · unfold nextGroup
      rw [h]
  | cons c more =>
    rw [hskip] at h
    refine .inl fun tail => ?_
    unfold nextGroup
    rw [f.skip_append_cons hskip]
    split at h
    · rename_i heq
      cases heq
      exact nextExtension_close h tail
    · rename_i hquestion
      cases h
      split
      · rename_i heq
        exact absurd (List.cons.inj heq).1 fun hc => hquestion more (by rw [hc])
      · rfl

/-! ## Repetitions -/

theorem dropWhile_append {p : Char → Bool} {cs : List Char} (h : cs.dropWhile p ≠ [])
    (tail : List Char) : (cs ++ tail).dropWhile p = cs.dropWhile p ++ tail := by
  cases hdrop : cs.dropWhile p with
  | nil => exact absurd hdrop h
  | cons c rest => exact (while_append hdrop tail).1

theorem finish_append {value n : Nat} {some? : Bool} {cs rest : List Char} {c : Char}
    (h : readCount.finish f value some? cs = some (n, c :: rest)) (tail : List Char) :
    readCount.finish f value some? (cs ++ tail) = some (n, c :: rest ++ tail) := by
  unfold readCount.finish at h ⊢
  split at h
  · rename_i hsome
    obtain ⟨rfl, hskip⟩ := Prod.mk.inj (Option.some.inj h)
    have hdrop : cs.dropWhile isBlank ≠ [] := by
      intro hnil
      rw [hnil, f.skip_nil] at hskip
      cases hskip
    rw [if_pos hsome, dropWhile_append hdrop, f.skip_append_cons hskip]
    rfl
  · cases h

/-- At the end of the text nothing is behind a count. -/
theorem digits_nil_ne (value n fuel : Nat) (some? : Bool) (rest : List Char) (c : Char) :
    readCount.digits f value some? [] fuel ≠ some (n, c :: rest) := by
  intro h
  have hfinish : readCount.finish f value some? [] = some (n, c :: rest) := by
    cases fuel <;> exact h
  unfold readCount.finish at hfinish
  split at hfinish
  · have hskip := (Prod.mk.inj (Option.some.inj hfinish)).2
    rw [List.dropWhile_nil, f.skip_nil] at hskip
    cases hskip
  · cases hfinish

/-- A count with something behind it does not change with what comes after that. -/
theorem digits_append {value n fuel fuel' : Nat} {some? : Bool} {cs rest : List Char} {c : Char}
    (tail : List Char) (hfuel : cs.length ≤ fuel) (hfuel' : cs.length + tail.length ≤ fuel')
    (h : readCount.digits f value some? cs fuel = some (n, c :: rest)) :
    readCount.digits f value some? (cs ++ tail) fuel' = some (n, c :: rest ++ tail) := by
  induction fuel generalizing value some? cs fuel' with
  | zero =>
    obtain rfl := List.length_eq_zero_iff.mp (Nat.le_zero.mp hfuel)
    exact absurd h (digits_nil_ne _ _ _ _ _ _)
  | succ fuel ih =>
    cases cs with
    | nil => exact absurd h (digits_nil_ne _ _ _ _ _ _)
    | cons d cs =>
      rw [List.length_cons] at hfuel hfuel'
      obtain ⟨fuel', rfl⟩ : ∃ m, fuel' = m + 1 := ⟨fuel' - 1, by omega⟩
      rw [List.cons_append]
      rw [readCount.digits] at h ⊢
      split at h
      · rename_i hdigit
        have hskip : f.skip cs ≠ [] := by
          intro hnil
          rw [hnil] at h
          exact digits_nil_ne _ _ _ _ _ _ h
        have hlength := f.skip_length_le cs
        rw [if_pos hdigit, f.skip_append hskip]
        exact ih (by omega) (by omega) h
      · rename_i hdigit
        rw [if_neg hdigit]
        exact finish_append h tail

theorem readCount_append {n : Nat} {cs rest : List Char} {c : Char}
    (h : readCount f cs = some (n, c :: rest)) (tail : List Char) :
    readCount f (cs ++ tail) = some (n, c :: rest ++ tail) := by
  unfold readCount at h ⊢
  have hdrop : cs.dropWhile isBlank ≠ [] := by
    intro hnil
    rw [hnil] at h
    exact digits_nil_ne _ _ _ _ _ _ h
  have hlength := (List.dropWhile_sublist isBlank (l := cs)).length_le
  rw [dropWhile_append hdrop, List.length_append]
  exact digits_append tail hlength (Nat.add_le_add_right hlength _) h

theorem readCount_nil_ne (n : Nat) (rest : List Char) (c : Char) :
    readCount f [] ≠ some (n, c :: rest) :=
  digits_nil_ne _ _ _ _ _ _

/-- What is read after the comma of a repetition, if that is no closing brace. -/
def readUpper (f : Flags) (least : Nat) (cs : List Char) : Option (Nat × Option Nat × List Char) :=
  (readCount f cs).bind fun x => match x.2 with
    | '\x7d' :: rest => if least ≤ x.1 then some (least, some x.1, f.skip rest) else none
    | _ => none

theorem readUpper_eq_some_iff {least : Nat} {cs : List Char} {x : Nat × Option Nat × List Char} :
    readUpper f least cs = some x ↔ ∃ most rest,
      readCount f cs = some (most, '\x7d' :: rest) ∧ least ≤ most ∧
        (least, some most, f.skip rest) = x := by
  unfold readUpper
  rw [Option.bind_eq_some_iff]
  constructor
  · rintro ⟨⟨most, left⟩, hcount, h⟩
    split at h
    · rename_i rest hrest
      obtain rfl : left = '\x7d' :: rest := hrest
      split at h
      · exact ⟨most, rest, hcount, ‹_›, Option.some.inj h⟩
      · cases h
    · cases h
  · rintro ⟨most, rest, hcount, hle, rfl⟩
    exact ⟨_, hcount, if_pos hle⟩

/-- What is read after the first count of a repetition. -/
def readMost (f : Flags) (least : Nat) (rest : List Char) : Option (Nat × Option Nat × List Char) :=
  match rest with
  | '\x7d' :: rest => some (least, some least, f.skip rest)
  | ',' :: rest =>
    match f.skip rest with
    | '\x7d' :: rest => some (least, none, f.skip rest)
    | rest => readUpper f least rest
  | _ => none

theorem readRepetition_eq_bind (f : Flags) (cs : List Char) :
    readRepetition f cs = (readCount f (f.skip cs)).bind fun x => readMost f x.1 x.2 :=
  rfl

/-- The bounds of a repetition apart from what is left behind them. -/
def boundsOf (x : Nat × Option Nat × List Char) : (Nat × Option Nat) × List Char :=
  ((x.1, x.2.1), x.2.2)

theorem keeps_readMost (f : Flags) (least : Nat) :
    Keeps fun cs => (readMost f least cs).map boundsOf := by
  intro text rest bounds h
  obtain ⟨x, hread, hpair⟩ := Option.map_eq_some_iff.mp h
  unfold readMost at hread
  split at hread
  · cases hread
    cases hpair
    exact (keeps_skip f (least, some least) rfl).map fun tail rest hskip => hskip
  · rename_i after
    split at hread
    · rename_i after' hskip
      cases hread
      cases hpair
      refine (keeps_skip f (least, (none : Option Nat)) rfl).map fun tail rest hskip' => ?_
      simp only [List.cons_append, readMost, f.skip_append_cons hskip]
      exact hskip'
    · rename_i hbrace
      obtain ⟨most, rest', hcount, hle, rfl⟩ := readUpper_eq_some_iff.mp hread
      cases hpair
      have hskip : f.skip after ≠ [] := by
        intro hnil
        rw [hnil] at hcount
        exact readCount_nil_ne _ _ _ hcount
      refine (keeps_skip f (least, some most) rfl).map fun tail rest hskip' => ?_
      have hupper : readUpper f least (f.skip after ++ ')' :: tail) = _ :=
        readUpper_eq_some_iff.mpr ⟨most, _, readCount_append hcount _, hle, rfl⟩
      have hmost : readMost f least (',' :: (after ++ ')' :: tail)) =
          readUpper f least (f.skip after ++ ')' :: tail) := by
        simp only [readMost, f.skip_append hskip]
        split
        · rename_i heq
          obtain ⟨more, hmore⟩ := exists_cons_of_close heq (by decide)
          exact absurd hmore (hbrace more)
        · rfl
      simp only [List.cons_append, hmost, hupper]
      exact hskip'
  · cases hread

theorem keeps_readRepetition (f : Flags) :
    Keeps fun cs => (readRepetition f cs).map boundsOf := by
  intro text rest bounds h
  obtain ⟨x, hread, hpair⟩ := Option.map_eq_some_iff.mp h
  rw [readRepetition_eq_bind] at hread
  obtain ⟨⟨least, left⟩, hcount, hmost⟩ := Option.bind_eq_some_iff.mp hread
  cases left with
  | nil => cases hmost
  | cons c left =>
    have hskip : f.skip text ≠ [] := by
      intro hnil
      rw [hnil] at hcount
      exact readCount_nil_ne _ _ _ hcount
    have hmost' : (readMost f least (c :: left)).map boundsOf = some (bounds, rest) := by
      rw [hmost, Option.map_some, hpair]
    refine (keeps_readMost f least hmost').map fun tail rest hread => ?_
    simp only [readRepetition_eq_bind, f.skip_append hskip, readCount_append hcount,
      Option.bind_some]
    exact hread

theorem readLazy_close (cs tail : List Char) :
    readLazy (cs ++ ')' :: tail) = ((readLazy cs).1, (readLazy cs).2 ++ ')' :: tail) := by
  cases cs with
  | nil => rfl
  | cons c cs =>
    by_cases hc : c = '?'
    · subst hc
      rfl
    · simp [readLazy, hc]

/-- A repetition with what may make it lazy. -/
def withLazy (x : (Nat × Option Nat) × List Char) : Piece × List Char :=
  (.repetition x.1.1 x.1.2 (readLazy x.2).1, (readLazy x.2).2)

theorem nextRepetition_eq (f : Flags) (cs : List Char) :
    nextRepetition f cs = ((readRepetition f cs).map boundsOf).map withLazy := by
  rw [Option.map_map]
  rfl

theorem withLazy_close (bounds : Nat × Option Nat) (cs tail : List Char) :
    withLazy (bounds, cs ++ ')' :: tail) =
      ((withLazy (bounds, cs)).1, (withLazy (bounds, cs)).2 ++ ')' :: tail) := by
  simp only [withLazy, readLazy_close]

theorem keeps_nextRepetition (f : Flags) : Keeps (nextRepetition f) := by
  intro text rest p h
  rw [nextRepetition_eq] at h
  obtain ⟨⟨bounds, left⟩, hread, hpair⟩ := Option.map_eq_some_iff.mp h
  rcases keeps_readRepetition f hread with hclosed | ⟨rfl, hclosed⟩
  · refine .inl fun tail => ?_
    have hlazy := congrArg (Option.map withLazy) (hclosed tail)
    rw [Option.map_some, withLazy_close, hpair] at hlazy
    rw [nextRepetition_eq]
    exact hlazy
  · cases hpair
    have hlazy := congrArg (Option.map withLazy) hclosed
    refine .inr ⟨rfl, ?_⟩
    rw [nextRepetition_eq]
    exact hlazy

/-! ## Pieces -/

theorem keeps_nextPiece (f : Flags) : Keeps (nextPiece f) := by
  intro text rest p h
  cases text with
  | nil => cases h
  | cons c cs =>
    unfold nextPiece at h
    simp only at h
    split at h
    · exact (keeps_nextGroup f h).map fun _ _ hread => hread
    · cases h
      exact Kept.done fun tail => rfl
    · cases h
      exact Kept.done fun tail => rfl
    · obtain ⟨⟨set, height, rest'⟩, hclass, hpair⟩ := Option.map_eq_some_iff.mp h
      cases hpair
      refine .inl fun tail => ?_
      simp only [List.cons_append, nextPiece, readClass_close hclass, Option.map_some]
    · cases h
      exact .inl fun tail => by simp only [List.cons_append, nextPiece, readLazy_close]
    · cases h
      exact .inl fun tail => by simp only [List.cons_append, nextPiece, readLazy_close]
    · cases h
      exact .inl fun tail => by simp only [List.cons_append, nextPiece, readLazy_close]
    · exact (keeps_nextRepetition f h).map fun _ _ hread => hread
    · obtain ⟨⟨escape, rest'⟩, hread, h⟩ := Option.bind_eq_some_iff.mp h
      obtain ⟨piece, hpiece, hpair⟩ := Option.map_eq_some_iff.mp h
      cases hpair
      refine (keeps_readEscape f hread).map fun tail rest hread' => ?_
      simp only [List.cons_append, nextPiece, hread', Option.bind_some, hpiece, Option.map_some]
    · obtain ⟨set, hdot, hpair⟩ := Option.map_eq_some_iff.mp h
      cases hpair
      refine Kept.done fun tail => ?_
      simp only [List.cons_append, nextPiece, hdot, Option.map_some]
    · cases h
      exact Kept.done fun tail => rfl
    · cases h
      exact Kept.done fun tail => rfl
    · cases h
      refine Kept.done fun tail => ?_
      simp_all [nextPiece]

end RoutePlan.Regex
