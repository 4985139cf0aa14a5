import RoutePlan.Regex

/-! # What a match takes

A matcher walks through a text, keeps the places it has been to, and prefers some ends to
others. What can be an end at all is said here without walks and without preference: every
kind of expression leads from a place in a text to others. Whatever the matcher finds, the
expression leads there.
-/

namespace RoutePlan.Regex

/-- A place in a text: the character before it and the characters after it. -/
structure Place where
  before : Option Char
  rest : List Char

def Cursor.place (c : Cursor) : Place := ⟨c.before, c.rest⟩

namespace Place

/-- The number of characters after the place. -/
def ahead (p : Place) : Nat := p.rest.length

/-- The text taken on the way from the first place to the second. -/
def Spans (p : Place) (taken : List Char) (q : Place) : Prop :=
  p.rest = taken ++ q.rest ∧ q.before = taken.getLast?.or p.before

/-- The second place lies behind the first one, or is the same. -/
def Onward (p q : Place) : Prop := ∃ taken, p.Spans taken q

variable {p q r : Place} {taken more : List Char}

theorem spans_nil_iff : p.Spans [] q ↔ q = p := by
  obtain ⟨before, rest⟩ := p
  obtain ⟨before', rest'⟩ := q
  simp [Spans, and_comm, eq_comm]

theorem Spans.append (h : p.Spans taken q) (h' : q.Spans more r) : p.Spans (taken ++ more) r := by
  refine ⟨by rw [h.1, h'.1, List.append_assoc], ?_⟩
  rw [h'.2, h.2, List.getLast?_append, Option.or_assoc]

theorem Spans.split (h : p.Spans (taken ++ more) r) : ∃ q, p.Spans taken q ∧ q.Spans more r := by
  obtain ⟨hrest, hbefore⟩ := h
  refine ⟨⟨taken.getLast?.or p.before, more ++ r.rest⟩, ⟨?_, rfl⟩, rfl, ?_⟩
  · rw [hrest, List.append_assoc]
  · rw [hbefore, List.getLast?_append, Option.or_assoc]

theorem spans_cons_iff {c : Char} :
    p.Spans (c :: taken) r ↔ ∃ q, p.Spans [c] q ∧ q.Spans taken r := by
  constructor
  · intro h
    exact Spans.split (show p.Spans ([c] ++ taken) r from h)
  · rintro ⟨q, hc, htaken⟩
    exact hc.append htaken

theorem Onward.refl (p : Place) : p.Onward p := ⟨[], spans_nil_iff.mpr rfl⟩

theorem Onward.trans (h : p.Onward q) (h' : q.Onward r) : p.Onward r := by
  obtain ⟨taken, h⟩ := h
  obtain ⟨more, h'⟩ := h'
  exact ⟨taken ++ more, h.append h'⟩

theorem Onward.ahead_le (h : p.Onward q) : q.ahead ≤ p.ahead := by
  obtain ⟨taken, hrest, -⟩ := h
  rw [ahead, ahead, hrest, List.length_append]
  exact Nat.le_add_left _ _

/-- How much is left tells two places behind one place apart. -/
theorem Onward.eq_of_ahead (h : p.Onward q) (h' : p.Onward r) (hahead : q.ahead = r.ahead) :
    q = r := by
  obtain ⟨taken, hrest, hbefore⟩ := h
  obtain ⟨more, hrest', hbefore'⟩ := h'
  obtain ⟨htaken, heq⟩ := List.append_inj' (hrest.symm.trans hrest') hahead
  obtain ⟨before, rest⟩ := q
  obtain ⟨before', rest'⟩ := r
  simp_all

end Place

/-- So many steps of a relation, one after the other. -/
def Iterated {α : Type} (step : α → α → Prop) : Nat → α → α → Prop
  | 0, p, q => q = p
  | k + 1, p, q => ∃ m, step p m ∧ Iterated step k m q

theorem Iterated.map {α β : Type} {step : α → α → Prop} {step' : β → β → Prop} {f : α → β}
    (hstep : ∀ p q, step p q → step' (f p) (f q)) {k : Nat} {p q : α} (h : Iterated step k p q) :
    Iterated step' k (f p) (f q) := by
  induction k generalizing p with
  | zero => exact congrArg f h
  | succ k ih =>
    obtain ⟨m, hm, h⟩ := h
    exact ⟨f m, hstep p m hm, ih h⟩

theorem Iterated.trans {α : Type} {step : α → α → Prop} {j k : Nat} {p m q : α}
    (h : Iterated step j p m) (h' : Iterated step k m q) : Iterated step (j + k) p q := by
  induction j generalizing p with
  | zero =>
    cases h
    rwa [Nat.zero_add]
  | succ j ih =>
    obtain ⟨n, hn, h⟩ := h
    rw [Nat.succ_add]
    exact ⟨n, hn, ih h⟩

theorem onward_of_iterated {step : Place → Place → Prop} (hstep : ∀ p q, step p q → p.Onward q)
    {k : Nat} {p q : Place} (h : Iterated step k p q) : p.Onward q := by
  induction k generalizing p with
  | zero =>
    cases h
    exact .refl _
  | succ k ih =>
    obtain ⟨m, hm, h⟩ := h
    exact (hstep p m hm).trans (ih h)

namespace Expr

/-- The expression leads from the first place to the second. Greed plays no part, and neither
do the texts of groups. -/
def Leads : Expr → Place → Place → Prop
  | .empty, p, q => q = p
  | .chars set, p, q => ∃ d, set d = true ∧ p.rest = d :: q.rest ∧ q.before = some d
  | .look a, p, q => q = p ∧ a.holds p.before p.rest = true
  | .seq a b, p, q => ∃ m, a.Leads p m ∧ b.Leads m q
  | .alt a b, p, q => a.Leads p q ∨ b.Leads p q
  | .loop body least most _, p, q =>
    ∃ k, least ≤ k ∧ (∀ n ∈ most, k ≤ max least n) ∧ Iterated (fun p q => body.Leads p q) k p q
  | .group _ body, p, q => body.Leads p q

/-- One expression after another. -/
def LeadsAll : List Expr → Place → Place → Prop
  | [], p, q => q = p
  | e :: es, p, q => ∃ m, e.Leads p m ∧ LeadsAll es m q

end Expr

/-! ## The matcher finds nothing else -/

theorem mem_of_mem_firsts {passed : List Nat} {cs : List Cursor} {d : Cursor}
    (h : d ∈ Cursor.firsts passed cs) : d ∈ cs := by
  induction cs generalizing passed with
  | nil => cases h
  | cons c cs ih =>
    rw [Cursor.firsts] at h
    split at h
    · exact List.mem_cons_of_mem _ (ih h)
    · rcases List.mem_cons.mp h with rfl | h
      · exact List.mem_cons_self
      · exact List.mem_cons_of_mem _ (ih h)

/-- A walk in turn finds what the walk finds from one of the cursors. -/
theorem exists_of_mem_inTurn {κ : Type} {walk : List κ → Cursor → List Cursor × List κ}
    {passed : List κ} {cs : List Cursor} {d : Cursor} (h : d ∈ (inTurn walk passed cs).1) :
    ∃ c ∈ cs, ∃ passed, d ∈ (walk passed c).1 := by
  induction cs generalizing passed with
  | nil => cases h
  | cons c cs ih =>
    rcases List.mem_append.mp h with h | h
    · exact ⟨c, List.mem_cons_self, passed, h⟩
    · obtain ⟨b, hb, hd⟩ := ih h
      exact ⟨b, List.mem_cons_of_mem _ hb, hd⟩

/-- One pass leads to another cursor. -/
abbrev Pass.To (pass : Pass) (c d : Cursor) : Prop := d ∈ pass c

theorem mem_roam {pass : Pass} {greedy : Bool} {fuel : Nat} {passed : List Nat} {c d : Cursor}
    (h : d ∈ (roam pass greedy fuel passed c).1) : ∃ k, Iterated pass.To k c d := by
  induction fuel generalizing passed c with
  | zero => exact ⟨0, List.mem_singleton.mp h⟩
  | succ fuel ih =>
    rw [roam] at h
    split at h
    · cases h
    · have hcases : d = c ∨ d ∈ (inTurn (roam pass greedy fuel) (c.ahead :: passed)
          ((pass c).filter fun d => d.ahead < c.ahead)).1 := by
        cases greedy with
        | true => simpa [or_comm] using h
        | false => simpa using h
      rcases hcases with rfl | h
      · exact ⟨0, rfl⟩
      · obtain ⟨m, hm, _, hd⟩ := exists_of_mem_inTurn h
        obtain ⟨k, hk⟩ := ih hd
        exact ⟨k + 1, m, (List.mem_filter.mp hm).1, hk⟩

theorem mem_atLeastOnce {pass : Pass} {greedy : Bool} {c d : Cursor}
    (h : d ∈ atLeastOnce pass greedy c) : ∃ k, Iterated pass.To (k + 1) c d := by
  obtain ⟨m, hm, _, hd⟩ := exists_of_mem_inTurn h
  obtain ⟨k, hk⟩ := mem_roam hd
  exact ⟨k, m, hm, hk⟩

theorem mem_anyTimes {pass : Pass} {greedy : Bool} {c d : Cursor}
    (h : d ∈ anyTimes pass greedy c) : ∃ k, Iterated pass.To k c d := by
  have hcases : d = c ∨ ∃ passed, d ∈ (inTurn (roam pass greedy (c.ahead + 1)) passed
      (pass c)).1 := by
    cases greedy with
    | true =>
      rcases List.mem_append.mp h with h | h
      · exact .inr ⟨_, h⟩
      · exact .inl (List.mem_singleton.mp h)
    | false => exact (List.mem_cons.mp h).imp_right fun h => ⟨_, h⟩
  rcases hcases with rfl | ⟨_, h⟩
  · exact ⟨0, rfl⟩
  · obtain ⟨m, hm, _, hd⟩ := exists_of_mem_inTurn h
    obtain ⟨k, hk⟩ := mem_roam hd
    exact ⟨k + 1, m, hm, hk⟩

theorem mem_exactly {pass : Pass} {n : Nat} {cs : List Cursor} {d : Cursor}
    (h : d ∈ exactly pass n cs) : ∃ c ∈ cs, Iterated pass.To n c d := by
  induction n generalizing cs with
  | zero => exact ⟨d, h, rfl⟩
  | succ n ih =>
    rw [exactly.eq_def] at h
    cases cs with
    | nil => cases h
    | cons c cs =>
      obtain ⟨m, hm, hd⟩ := ih h
      obtain ⟨b, hb, hm⟩ := List.mem_flatMap.mp (mem_of_mem_firsts hm)
      exact ⟨b, hb, m, hm, hd⟩

theorem mem_atMost {pass : Pass} {greedy : Bool} {n : Nat} {passed : List (Nat × Nat)}
    {c d : Cursor} (h : d ∈ (atMost pass greedy n passed c).1) :
    ∃ k ≤ n, Iterated pass.To k c d := by
  induction n generalizing passed c with
  | zero => exact ⟨0, Nat.le_refl 0, List.mem_singleton.mp h⟩
  | succ n ih =>
    rw [atMost] at h
    split at h
    · cases h
    · have hcases : d = c ∨
          d ∈ (inTurn (atMost pass greedy n) ((n, c.ahead) :: passed) (pass c)).1 := by
        cases greedy with
        | true => simpa [or_comm] using h
        | false => simpa using h
      rcases hcases with rfl | h
      · exact ⟨0, Nat.zero_le _, rfl⟩
      · obtain ⟨m, hm, _, hd⟩ := exists_of_mem_inTurn h
        obtain ⟨k, hle, hk⟩ := ih hd
        exact ⟨k + 1, Nat.succ_le_succ hle, m, hm, hk⟩

/-- All the cursors a loop comes to, more than one of them perhaps at one place. -/
def passes (pass : Pass) (least : Nat) (most : Option Nat) (greedy : Bool) (c : Cursor) :
    List Cursor :=
  match most with
  | some n => (exactly pass least [c]).flatMap fun d => (atMost pass greedy (n - least) [] d).1
  | none =>
    if least = 0 then anyTimes pass greedy c
    else (exactly pass (least - 1) [c]).flatMap (atLeastOnce pass greedy)

theorem looped_eq (pass : Pass) (least : Nat) (most : Option Nat) (greedy : Bool) (c : Cursor) :
    looped pass least most greedy c = Cursor.firsts [] (passes pass least most greedy c) := rfl

/-- A loop makes a number of passes between its bounds. -/
theorem mem_passes {pass : Pass} {least : Nat} {most : Option Nat} {greedy : Bool} {c d : Cursor}
    (h : d ∈ passes pass least most greedy c) :
    ∃ k, least ≤ k ∧ (∀ n ∈ most, k ≤ max least n) ∧ Iterated pass.To k c d := by
  cases most with
  | some n =>
    obtain ⟨m, hm, hd⟩ := List.mem_flatMap.mp h
    obtain ⟨b, hb, hfirst⟩ := mem_exactly hm
    obtain ⟨k, hle, hmore⟩ := mem_atMost hd
    rw [List.mem_singleton.mp hb] at hfirst
    refine ⟨least + k, Nat.le_add_right _ _, ?_, hfirst.trans hmore⟩
    intro n' hn
    cases hn
    omega
  | none =>
    have hnone : ∀ k : Nat, ∀ n ∈ (none : Option Nat), k ≤ max least n := fun _ _ hn => by
      cases hn
    by_cases hleast : least = 0
    · obtain ⟨k, hk⟩ := mem_anyTimes (by simpa [passes, hleast] using h)
      exact ⟨k, by omega, hnone k, hk⟩
    · obtain ⟨m, hm, hd⟩ := List.mem_flatMap.mp (by simpa [passes, hleast] using h)
      obtain ⟨b, hb, hfirst⟩ := mem_exactly hm
      obtain ⟨k, hmore⟩ := mem_atLeastOnce hd
      rw [List.mem_singleton.mp hb] at hfirst
      refine ⟨least - 1 + (k + 1), by omega, hnone _, hfirst.trans hmore⟩

theorem leads_of_mem_ends {e : Expr} {c d : Cursor} (h : d ∈ ends e c) :
    e.Leads c.place d.place := by
  induction e generalizing c d with
  | empty => exact congrArg Cursor.place (List.mem_singleton.mp h)
  | chars set =>
    rw [ends] at h
    split at h
    · cases h
    · rename_i a rest hrest
      split at h
      · rename_i hset
        rw [List.mem_singleton.mp h]
        exact ⟨a, hset, hrest, rfl⟩
      · cases h
  | look a =>
    rw [ends] at h
    split at h
    · rename_i hholds
      rw [List.mem_singleton.mp h]
      exact ⟨rfl, hholds⟩
    · cases h
  | seq a b iha ihb =>
    obtain ⟨m, hm, hd⟩ := List.mem_flatMap.mp (mem_of_mem_firsts h)
    exact ⟨m.place, iha hm, ihb hd⟩
  | alt a b iha ihb =>
    exact (List.mem_append.mp (mem_of_mem_firsts h)).imp (fun h => iha h) fun h => ihb h
  | loop body least most greedy ih =>
    obtain ⟨k, hleast, hmost, hk⟩ := mem_passes (mem_of_mem_firsts h)
    exact ⟨k, hleast, hmost, hk.map fun p q hq => ih hq⟩
  | group index body ih =>
    obtain ⟨m, hm, rfl⟩ := List.mem_map.mp h
    change body.Leads c.place m.place
    exact ih hm

/-- A search skips a beginning of the text and matches from there. -/
theorem mem_ends_of_leftmost {e : Expr} {before : Option Char} {text : List Char} {d : Cursor}
    (h : leftmost e before text = some d) :
    ∃ skipped rest, text = skipped ++ rest ∧ d ∈ ends e ⟨skipped.getLast?.or before, rest, []⟩ := by
  induction text generalizing before with
  | nil => exact ⟨[], [], rfl, List.mem_of_head? h⟩
  | cons c rest ih =>
    rw [leftmost] at h
    split at h
    · rename_i hd
      exact ⟨[], c :: rest, rfl, List.mem_of_head? (hd.trans h)⟩
    · obtain ⟨skipped, rest', rfl, hd⟩ := ih h
      refine ⟨c :: skipped, rest', rfl, ?_⟩
      cases hlast : skipped.getLast? with
      | none => simpa [List.getLast?_cons, hlast] using hd
      | some b => simpa [List.getLast?_cons, hlast] using hd

theorem exists_leads_of_leftmost {e : Expr} {before : Option Char} {text : List Char}
    (h : (leftmost e before text).isSome) :
    ∃ skipped rest q, text = skipped ++ rest ∧
      e.Leads ⟨skipped.getLast?.or before, rest⟩ q := by
  obtain ⟨d, hd⟩ := Option.isSome_iff_exists.mp h
  obtain ⟨skipped, rest, htext, hmem⟩ := mem_ends_of_leftmost hd
  exact ⟨skipped, rest, d.place, htext, leads_of_mem_ends hmem⟩

/-! ## Sequences -/

namespace Expr

theorem leads_foldl_seq (e : Expr) (es : List Expr) (p q : Place) :
    (es.foldl .seq e).Leads p q ↔ ∃ m, e.Leads p m ∧ LeadsAll es m q := by
  induction es generalizing e with
  | nil => simp [LeadsAll]
  | cons f es ih =>
    rw [List.foldl_cons, ih]
    simp only [Leads, LeadsAll]
    constructor
    · rintro ⟨n, ⟨m, hm, hn⟩, hq⟩
      exact ⟨m, hm, n, hn, hq⟩
    · rintro ⟨m, hm, n, hn, hq⟩
      exact ⟨n, ⟨m, hm, hn⟩, hq⟩

theorem leads_seqAll (es : List Expr) (p q : Place) :
    (seqAll es).Leads p q ↔ LeadsAll es p q := by
  cases es with
  | nil => exact Iff.rfl
  | cons e es => exact leads_foldl_seq e es p q

theorem leadsAll_append (es fs : List Expr) (p q : Place) :
    LeadsAll (es ++ fs) p q ↔ ∃ m, LeadsAll es p m ∧ LeadsAll fs m q := by
  induction es generalizing p with
  | nil => simp [LeadsAll]
  | cons e es ih =>
    simp only [List.cons_append, LeadsAll, ih]
    constructor
    · rintro ⟨n, hn, m, hm, hq⟩
      exact ⟨m, ⟨n, hn, hm⟩, hq⟩
    · rintro ⟨m, ⟨n, hn, hm⟩, hq⟩
      exact ⟨n, hn, m, hm, hq⟩

/-- A literal text. -/
def literal (c : Char) : Expr := .chars (.single c)

theorem leads_chars_iff {set : Text.CharSet} {p q : Place} :
    (chars set).Leads p q ↔ ∃ d, set d = true ∧ p.Spans [d] q := Iff.rfl

theorem leads_literal_iff {c : Char} {p q : Place} : (literal c).Leads p q ↔ p.Spans [c] q := by
  simp [literal, leads_chars_iff, Text.CharSet.single]

theorem leadsAll_literal_iff {text : List Char} {p q : Place} :
    LeadsAll (text.map literal) p q ↔ p.Spans text q := by
  induction text generalizing p with
  | nil => exact Place.spans_nil_iff.symm
  | cons c text ih =>
    simp only [List.map_cons, LeadsAll, leads_literal_iff, ih, ← Place.spans_cons_iff]

theorem rest_of_leadsAll_literal {text : List Char} {p q : Place}
    (h : LeadsAll (text.map literal) p q) : p.rest = text ++ q.rest :=
  (leadsAll_literal_iff.mp h).1

theorem iterated_chars_iff {set : Text.CharSet} {k : Nat} {p q : Place} :
    Iterated (fun p q => (chars set).Leads p q) k p q ↔
      ∃ taken : List Char, taken.length = k ∧ (∀ c ∈ taken, set c = true) ∧ p.Spans taken q := by
  induction k generalizing p with
  | zero =>
    simp only [Iterated, List.length_eq_zero_iff, exists_eq_left, List.not_mem_nil, false_imp_iff,
      implies_true, true_and, Place.spans_nil_iff]
  | succ k ih =>
    simp only [Iterated, ih]
    constructor
    · rintro ⟨m, ⟨d, hd, hm⟩, taken, hlength, hall, hq⟩
      exact ⟨d :: taken, congrArg (· + 1) hlength, List.forall_mem_cons.mpr ⟨hd, hall⟩,
        Place.spans_cons_iff.mpr ⟨m, hm, hq⟩⟩
    · rintro ⟨_ | ⟨d, taken⟩, hlength, hall, hq⟩
      · cases hlength
      · obtain ⟨hd, hall⟩ := List.forall_mem_cons.mp hall
        obtain ⟨m, hm, hq⟩ := Place.spans_cons_iff.mp hq
        exact ⟨m, ⟨d, hd, hm⟩, taken, Nat.succ.inj hlength, hall, hq⟩

/-- One character or more of a set. -/
theorem leads_plus_iff {set : Text.CharSet} {greedy : Bool} {p q : Place} :
    (loop (chars set) 1 none greedy).Leads p q ↔
      ∃ taken : List Char, taken ≠ [] ∧ (∀ c ∈ taken, set c = true) ∧ p.Spans taken q := by
  constructor
  · rintro ⟨k, hk, -, h⟩
    obtain ⟨taken, rfl, hall, hq⟩ := iterated_chars_iff.mp h
    exact ⟨taken, List.ne_nil_of_length_pos hk, hall, hq⟩
  · rintro ⟨taken, hne, hall, hq⟩
    refine ⟨taken.length, List.length_pos_iff.mpr hne, ?_,
      iterated_chars_iff.mpr ⟨taken, rfl, hall, hq⟩⟩
    intro n hn
    cases hn

theorem onward_of_leads {e : Expr} {p q : Place} (h : e.Leads p q) : p.Onward q := by
  induction e generalizing p q with
  | empty =>
    cases h
    exact .refl _
  | chars set =>
    obtain ⟨d, -, hrest, hbefore⟩ := h
    exact ⟨[d], hrest, hbefore⟩
  | look a =>
    cases h.1
    exact .refl _
  | seq a b iha ihb =>
    obtain ⟨m, hm, hq⟩ := h
    exact (iha hm).trans (ihb hq)
  | alt a b iha ihb => exact h.elim iha ihb
  | loop body least most greedy ih =>
    obtain ⟨k, -, -, hk⟩ := h
    exact onward_of_iterated (fun _ _ h => ih h) hk
  | group index body ih => exact ih h

theorem onward_of_leadsAll {es : List Expr} {p q : Place} (h : LeadsAll es p q) : p.Onward q := by
  induction es generalizing p with
  | nil =>
    cases h
    exact .refl _
  | cons e es ih =>
    obtain ⟨m, hm, h⟩ := h
    exact (onward_of_leads hm).trans (ih h)

/-- What is left after an expression is the end of what was there before it. -/
theorem suffix_of_leadsAll {es : List Expr} {p q : Place} (h : LeadsAll es p q) :
    q.rest <:+ p.rest := by
  obtain ⟨taken, hrest, -⟩ := onward_of_leadsAll h
  exact ⟨taken, hrest.symm⟩

end Expr

/-- Between the anchors of a text, a match takes the whole text. -/
theorem leadsAll_of_isMatch {source : String} {es : List Expr} {text : String}
    (h : isMatch ⟨source, Expr.seqAll (.look .textStart :: es ++ [.look .textEnd])⟩ text = true) :
    ∃ q : Place, q.rest = [] ∧ Expr.LeadsAll es ⟨none, text.toList⟩ q := by
  obtain ⟨skipped, rest, q, htext, hleads⟩ := exists_leads_of_leftmost h
  rw [Expr.leads_seqAll, List.cons_append] at hleads
  obtain ⟨m, ⟨rfl, hstart⟩, hleads⟩ := hleads
  obtain ⟨n, hes, k, ⟨rfl, hend⟩, hq⟩ := (Expr.leadsAll_append es _ _ q).mp hleads
  have hskipped : skipped = [] := by
    simpa [Assertion.holds] using hstart
  have hrest : k.rest = [] := by simpa [Assertion.holds] using hend
  refine ⟨k, hrest, ?_⟩
  rw [htext, hskipped]
  simpa [hskipped] using hes

end RoutePlan.Regex
