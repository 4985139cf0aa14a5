import RoutePlan.Proofs.Regex.Reads

/-! # In front of a closing parenthesis

A pattern that stands between parentheses is read as it is read alone: no reader looks past the
end of its piece, and no piece begins with a closing parenthesis that was none before. The one
exception is a comment at the end of the pattern, which takes in the parenthesis. It shows by
the end of the text being reached.
-/

namespace RoutePlan.Regex

open Text

variable {α β : Type} {f : Flags}

/-- What a reader makes of a text it makes of the text in front of a closing parenthesis, unless
the text ends in a comment. -/
def Kept (read : List Char → Option (α × List Char)) (text : List Char) (a : α)
    (rest : List Char) : Prop :=
  (∀ tail, read (text ++ ')' :: tail) = some (a, rest ++ ')' :: tail)) ∨
    (rest = [] ∧ read (text ++ [')', '$']) = some (a, []))

def Keeps (read : List Char → Option (α × List Char)) : Prop :=
  ∀ {text rest : List Char} {a : α}, read text = some (a, rest) → Kept read text a rest

theorem Kept.done {read : List Char → Option (α × List Char)} {text rest : List Char} {a : α}
    (h : ∀ tail, read (text ++ tail) = some (a, rest ++ tail)) : Kept read text a rest :=
  .inl fun tail => h (')' :: tail)

/-- A reader that goes on from another one is kept where that one is. -/
theorem Kept.map {read : List Char → Option (α × List Char)} {text text' rest : List Char} {a : α}
    {read' : List Char → Option (β × List Char)} {b : β} (h : Kept read text a rest)
    (hmap : ∀ tail rest, read (text ++ ')' :: tail) = some (a, rest) →
      read' (text' ++ ')' :: tail) = some (b, rest)) : Kept read' text' b rest :=
  h.imp (fun h tail => hmap _ _ (h tail)) fun ⟨hrest, h⟩ => ⟨hrest, hmap _ _ h⟩

/-- What a scan stops at does not change with what stands behind it. -/
theorem while_append {p : Char → Bool} {cs rest : List Char} {c : Char}
    (h : cs.dropWhile p = c :: rest) (tail : List Char) :
    (cs ++ tail).dropWhile p = c :: (rest ++ tail) ∧
      (cs ++ tail).takeWhile p = cs.takeWhile p := by
  have hlength := congrArg List.length (List.takeWhile_append_dropWhile (p := p) (l := cs))
  rw [h, List.length_append, List.length_cons] at hlength
  refine ⟨?_, ?_⟩
  · rw [List.dropWhile_append, h]
    rfl
  · rw [List.takeWhile_append, if_neg (by omega)]

/-! ## Skipped blanks and comments -/

theorem skipBlanks_append (cs tail : List Char) :
    (Flags.skipBlanks cs ≠ [] →
      Flags.skipBlanks (cs ++ tail) = Flags.skipBlanks cs ++ tail) ∧
    (Flags.skipBlanks.skipComment cs ≠ [] →
      Flags.skipBlanks.skipComment (cs ++ tail) = Flags.skipBlanks.skipComment cs ++ tail) := by
  induction cs with
  | nil => exact ⟨fun h => absurd rfl h, fun h => absurd rfl h⟩
  | cons c cs ih =>
    rw [List.cons_append]
    constructor
    · rw [Flags.skipBlanks, Flags.skipBlanks]
      split
      · exact ih.1
      · split
        · exact ih.2
        · exact fun _ => rfl
    · by_cases hline : c = '\n'
      · subst hline
        exact ih.1
      · simp only [Flags.skipBlanks.skipComment.eq_3 _ _ hline]
        exact ih.2

/-- Where nothing is left of a text, a parenthesis behind it is what is left, or a comment has
taken it. -/
theorem skipBlanks_close (cs : List Char) :
    (Flags.skipBlanks cs = [] →
      (∀ tail, Flags.skipBlanks (cs ++ ')' :: tail) = ')' :: tail) ∨
        Flags.skipBlanks (cs ++ [')', '$']) = []) ∧
    (Flags.skipBlanks.skipComment cs = [] →
      (∀ tail, Flags.skipBlanks.skipComment (cs ++ ')' :: tail) = ')' :: tail) ∨
        Flags.skipBlanks.skipComment (cs ++ [')', '$']) = []) := by
  induction cs with
  | nil =>
    exact ⟨fun _ => .inl fun tail => ({ spaced := true } : Flags).skip_close tail,
      fun _ => .inr rfl⟩
  | cons c cs ih =>
    simp only [List.cons_append]
    constructor
    · simp only [Flags.skipBlanks]
      split
      · exact ih.1
      · split
        · exact ih.2
        · exact fun h => by cases h
    · by_cases hline : c = '\n'
      · subst hline
        exact ih.1
      · simp only [Flags.skipBlanks.skipComment.eq_3 _ _ hline]
        exact ih.2

theorem Flags.skip_append {cs : List Char} (h : f.skip cs ≠ []) (tail : List Char) :
    f.skip (cs ++ tail) = f.skip cs ++ tail := by
  unfold skip at h ⊢
  split
  · rename_i hspaced
    rw [if_pos hspaced] at h
    exact (skipBlanks_append cs tail).1 h
  · rfl

theorem Flags.skip_kept (f : Flags) (cs : List Char) :
    (∀ tail, f.skip (cs ++ ')' :: tail) = f.skip cs ++ ')' :: tail) ∨
      (f.skip cs = [] ∧ f.skip (cs ++ [')', '$']) = []) := by
  by_cases h : f.skip cs = []
  · rw [h]
    unfold skip at h ⊢
    split
    · rename_i hspaced
      rw [if_pos hspaced] at h
      exact ((skipBlanks_close cs).1 h).imp_right fun hnil => ⟨rfl, hnil⟩
    · rename_i hspaced
      rw [if_neg hspaced] at h
      subst h
      exact .inl fun tail => rfl
  · exact .inl fun tail => skip_append h _

theorem Flags.skip_append_cons {cs rest : List Char} {c : Char} (h : f.skip cs = c :: rest)
    (tail : List Char) : f.skip (cs ++ tail) = c :: (rest ++ tail) := by
  have hne : f.skip cs ≠ [] := by
    rw [h]
    exact List.cons_ne_nil c rest
  rw [skip_append hne, h, List.cons_append]

/-- A value, and what is left once blanks are skipped. -/
theorem keeps_skip (f : Flags) (a : α) : Keeps fun cs => some (a, f.skip cs) := by
  intro text rest b h
  obtain ⟨rfl, rfl⟩ := Prod.mk.inj (Option.some.inj h)
  exact (f.skip_kept text).imp (fun h tail => congrArg (fun rest => some (a, rest)) (h tail))
    fun ⟨hrest, h⟩ => ⟨hrest, congrArg (fun rest => some (a, rest)) h⟩

/-! ## Escapes -/

theorem keeps_readHexDigits (f : Flags) (n value : Nat) : Keeps (readHexDigits f n value) := by
  induction n generalizing value with
  | zero => exact keeps_skip f value
  | succ n ih =>
    intro text rest a h
    rw [readHexDigits] at h
    cases hskip : f.skip text with
    | nil =>
      rw [hskip] at h
      cases h
    | cons c more =>
      rw [hskip] at h
      obtain ⟨digit, hdigit, h⟩ := Option.bind_eq_some_iff.mp h
      refine (ih _ h).map fun tail rest hread => ?_
      rw [readHexDigits, f.skip_append_cons hskip]
      simp only [hdigit]
      exact hread

/-- What stands in braces is the same with anything behind it. -/
theorem readBraced_append {fuel : Nat} {cs inside rest : List Char}
    (h : readBraced f fuel cs = some (inside, rest)) (more : Nat) (tail : List Char) :
    readBraced f (fuel + more) (cs ++ tail) = some (inside, rest ++ tail) := by
  induction fuel generalizing cs inside rest with
  | zero => cases h
  | succ fuel ih =>
    rw [Nat.succ_add]
    rw [readBraced] at h ⊢
    cases hskip : f.skip cs with
    | nil =>
      rw [hskip] at h
      cases h
    | cons c cs' =>
      rw [f.skip_append_cons hskip]
      rw [hskip] at h
      by_cases hc : c = '\x7d'
      · subst hc
        cases h
        rfl
      · simp only at h ⊢
        obtain ⟨⟨inside', rest'⟩, hread, hpair⟩ := Option.map_eq_some_iff.mp h
        cases hpair
        rw [ih hread]
        rfl

theorem readBraced_close {cs inside rest : List Char}
    (h : readBraced f (cs.length + 1) cs = some (inside, rest)) (tail : List Char) :
    readBraced f ((cs ++ tail).length + 1) (cs ++ tail) = some (inside, rest ++ tail) := by
  rw [List.length_append, Nat.add_right_comm]
  exact readBraced_append h tail.length tail

theorem keeps_readHex (f : Flags) (length : Nat) : Keeps (readHex f length) := by
  intro text rest a h
  unfold readHex at h
  cases hskip : f.skip text with
  | nil =>
    rw [hskip] at h
    cases h
  | cons c cs =>
    rw [hskip] at h
    by_cases hc : c = '\x7b'
    · subst hc
      obtain ⟨⟨inside, rest'⟩, hbraced, h⟩ := Option.bind_eq_some_iff.mp h
      obtain ⟨value, hvalue, h⟩ := Option.bind_eq_some_iff.mp h
      obtain ⟨d, hd, h⟩ := Option.bind_eq_some_iff.mp h
      refine (keeps_skip f (Escape.literal d false) h).map fun tail rest hskip' => ?_
      unfold readHex
      rw [f.skip_append_cons hskip]
      simp only [readBraced_close hbraced, Option.bind_eq_bind, Option.bind_some, hvalue, hd]
      exact hskip'
    · split at h
      · cases h
      · rename_i hbrace
        exact absurd (List.cons.inj hbrace).1 hc
      · obtain ⟨⟨value, rest'⟩, hdigits, h⟩ := Option.bind_eq_some_iff.mp h
        obtain ⟨d, hd, h⟩ := Option.bind_eq_some_iff.mp h
        cases h
        refine (keeps_readHexDigits f length 0 hdigits).map fun tail rest hread => ?_
        unfold readHex
        rw [f.skip_append_cons hskip]
        split
        · rename_i hnil
          cases hnil
        · rename_i hbrace
          exact absurd (List.cons.inj hbrace).1 hc
        · rw [List.cons_append] at hread
          simp only [hread, Option.bind_eq_bind, Option.bind_some, hd]
          rfl

/-- What a property is looked up by. -/
def readQuery (f : Flags) (cs : List Char) : Option (List Char × List Char) :=
  match f.skip cs with
  | [] => none
  | '\x7b' :: rest => readBraced f (rest.length + 1) rest
  | '\\' :: _ => none
  | c :: rest => some ([c], f.skip rest)

theorem keeps_readQuery (f : Flags) : Keeps (readQuery f) := by
  intro text rest a h
  unfold readQuery at h
  split at h
  · cases h
  · rename_i cs hskip
    refine Kept.done fun tail => ?_
    unfold readQuery
    rw [f.skip_append_cons hskip]
    exact readBraced_close h tail
  · cases h
  · rename_i c cs hbrace hbackslash hskip
    cases h
    refine (keeps_skip f [c] rfl).map fun tail rest hread => ?_
    unfold readQuery
    rw [f.skip_append_cons hskip]
    split
    · rename_i hnil
      cases hnil
    · rename_i heq
      exact absurd (List.cons.inj heq).1 hbrace
    · rename_i heq
      exact absurd (List.cons.inj heq).1 hbackslash
    · rename_i heq
      cases heq
      exact hread

/-- The set of a property, once it is looked up. -/
def propertySet? (f : Flags) (negated : Bool) (query : List Char) : Option CharSet :=
  if !f.unicode then none
  else (Property.find? query).bind fun x => f.settle? (negated != x.1) (f.widen x.2)

theorem readProperty_eq (f : Flags) (negated : Bool) (cs : List Char) :
    readProperty f negated cs =
      (readQuery f cs).bind fun x => (propertySet? f negated x.1).map fun s => (.set s, x.2) := by
  unfold readProperty readQuery propertySet?
  generalize f.skip cs = skipped
  cases f.unicode with
  | false =>
    simp only [Bool.not_false, if_true]
    split <;> simp
  | true =>
    simp only [Bool.not_true, Bool.false_eq_true, if_false]
    split
    case h_2 | h_4 =>
      simp only [Option.map_eq_bind, Option.bind_assoc, Option.bind_some]
      rfl
    all_goals rfl

theorem keeps_readProperty (f : Flags) (negated : Bool) : Keeps (readProperty f negated) := by
  intro text rest a h
  rw [readProperty_eq] at h
  obtain ⟨⟨query, rest'⟩, hquery, h⟩ := Option.bind_eq_some_iff.mp h
  obtain ⟨set, hset, h⟩ := Option.map_eq_some_iff.mp h
  cases h
  refine (keeps_readQuery f hquery).map fun tail rest hread => ?_
  rw [readProperty_eq, hread, Option.bind_some, hset, Option.map_some]

theorem keeps_readBoundary (f : Flags) : Keeps (readBoundary f) := by
  intro text rest a h
  cases text with
  | nil =>
    cases h
    exact .inl fun tail => rfl
  | cons c cs =>
    refine Kept.done fun tail => ?_
    unfold readBoundary at h ⊢
    split at h
    · rename_i cs' heq
      cases heq
      rw [List.cons_append]
      simp only
      cases hskip : f.skip cs with
      | nil =>
        rw [hskip] at h
        cases h
      | cons d more =>
        rw [hskip] at h
        rw [f.skip_append_cons hskip]
        simp only at h ⊢
        split at h
        · obtain ⟨⟨inside, rest'⟩, hbraced, h⟩ := Option.bind_eq_some_iff.mp h
          obtain ⟨boundary, hboundary, h⟩ := Option.bind_eq_some_iff.mp h
          cases h
          rw [if_pos ‹_›]
          simp only [readBraced_close hbraced, Option.bind_eq_bind, Option.bind_some, hboundary]
          rfl
        · cases h
          rw [if_neg ‹_›]
          rfl
    · rename_i hbrace
      cases h
      split
      · rename_i heq
        cases heq
        exact absurd rfl (hbrace cs)
      · rfl

theorem keeps_readEscape (f : Flags) : Keeps (readEscape f) := by
  intro text rest a h
  cases text with
  | nil => cases h
  | cons c cs =>
    have hclass : ∀ (d : Char) (negated : Bool) (set : CharSet),
        (∀ cs, readEscape f (d :: cs) = (f.settle? negated set).map fun set => (.set set, cs)) →
        readEscape f (d :: cs) = some (a, rest) → Kept (readEscape f) (d :: cs) a rest := by
      intro d negated set hd h
      rw [hd] at h
      obtain ⟨settled, hsettle, hpair⟩ := Option.map_eq_some_iff.mp h
      cases hpair
      exact Kept.done fun tail => by rw [List.cons_append, hd, hsettle, Option.map_some]
    have h' := h
    simp only [readEscape] at h
    split at h
    case h_1 | h_2 | h_3 => exact (keeps_readHex f _ h).map fun _ _ hread => hread
    case h_4 | h_5 => exact (keeps_readProperty f _ h).map fun _ _ hread => hread
    case h_20 => exact (keeps_readBoundary f h).map fun _ _ hread => hread
    case h_6 => exact hclass 'd' false _ (fun _ => rfl) h'
    case h_7 => exact hclass 'D' true _ (fun _ => rfl) h'
    case h_8 => exact hclass 's' false _ (fun _ => rfl) h'
    case h_9 => exact hclass 'S' true _ (fun _ => rfl) h'
    case h_10 => exact hclass 'w' false _ (fun _ => rfl) h'
    case h_11 => exact hclass 'W' true _ (fun _ => rfl) h'
    case h_24 =>
      split at h
      · cases h
        refine Kept.done fun tail => ?_
        simp_all [readEscape]
      · cases h
    all_goals
      cases h
      exact Kept.done fun tail => rfl

end RoutePlan.Regex
