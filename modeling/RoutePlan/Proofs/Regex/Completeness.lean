import RoutePlan.Proofs.Regex.Matching

/-! # The matcher finds every end

A walk enters no place twice, and a matcher keeps one cursor for each place. Nothing is lost by
that: when a walk is over, every place it has entered has a cursor, and all passes from there
lead to places it has entered too. So an expression leads from a place to another exactly where
the matcher has an end there.
-/

namespace RoutePlan.Regex

/-- A pass that finds the ends of a relation between places: all of them, and no others. -/
structure Pass.Finds (pass : Pass) (step : Place → Place → Prop) : Prop where
  sound : ∀ {c d}, d ∈ pass c → step c.place d.place
  complete : ∀ {c q}, step c.place q → ∃ d ∈ pass c, d.place = q
  onward : ∀ {p q}, step p q → p.Onward q

variable {pass : Pass} {step : Place → Place → Prop} {p m q : Place} {c : Cursor}
  {cs out : List Cursor}

/-! ## One cursor for each place -/

theorem exists_mem_firsts (passed : List Nat) (h : c ∈ cs) :
    c.ahead ∈ passed ∨ ∃ d ∈ Cursor.firsts passed cs, d.ahead = c.ahead := by
  induction cs generalizing passed with
  | nil => cases h
  | cons b cs ih =>
    rw [Cursor.firsts]
    split
    · rename_i hpassed
      rcases List.mem_cons.mp h with rfl | h
      · exact .inl (by simpa using hpassed)
      · exact ih passed h
    · rcases List.mem_cons.mp h with rfl | h
      · exact .inr ⟨c, List.mem_cons_self, rfl⟩
      · rcases ih (b.ahead :: passed) h with hmem | ⟨d, hd, hahead⟩
        · rcases List.mem_cons.mp hmem with heq | hmem
          · exact .inr ⟨b, List.mem_cons_self, heq.symm⟩
          · exact .inl hmem
        · exact .inr ⟨d, List.mem_cons_of_mem _ hd, hahead⟩

theorem exists_place_mem_firsts (hcs : ∀ d ∈ cs, p.Onward d.place) (h : c ∈ cs) :
    ∃ d ∈ Cursor.firsts [] cs, d.place = c.place := by
  rcases exists_mem_firsts [] h with hmem | ⟨d, hd, hahead⟩
  · cases hmem
  · exact ⟨d, hd, (hcs d (mem_of_mem_firsts hd)).eq_of_ahead (hcs c h) hahead⟩

/-! ## Walks -/

section
variable {κ : Type} {done : κ → List Cursor → List κ → Prop} {passed seen : List κ}

/-- A condition on what a walk has found and where it has been that lasts while it goes on. -/
def Lasting (holds : List Cursor → List κ → Prop) : Prop :=
  ∀ {out out' seen seen'}, out ⊆ out' → seen ⊆ seen' → holds out seen → holds out' seen'

/-- A walk forgets no place it has been to, and is done with those it has entered. -/
structure Grows (done : κ → List Cursor → List κ → Prop) (passed : List κ)
    (walked : List Cursor × List κ) : Prop where
  kept : passed ⊆ walked.2
  done : ∀ k ∈ walked.2, k ∈ passed ∨ done k walked.1 walked.2

theorem Grows.refl (passed : List κ) (out : List Cursor) : Grows done passed (out, passed) :=
  ⟨List.Subset.refl _, fun _ hk => .inl hk⟩

/-- The walk that enters a place and goes on from there. -/
theorem Grows.enter {k : κ} {further : List Cursor} (h : Grows done (k :: passed) (further, seen))
    (hlasting : ∀ k, Lasting (done k)) (hsub : further ⊆ out) (hk : done k out seen) :
    Grows done passed (out, seen) := by
  refine ⟨fun _ hmem => h.kept (List.mem_cons_of_mem _ hmem), fun k' hmem => ?_⟩
  rcases h.done k' hmem with hcons | hdone
  · rcases List.mem_cons.mp hcons with rfl | hmem
    · exact .inr hk
    · exact .inl hmem
  · exact .inr (hlasting k' hsub (List.Subset.refl _) hdone)

/-- Greed only tells where the cursor itself stands among those found from it. -/
theorem subset_of_greed (greedy : Bool) (c : Cursor) (further : List Cursor) :
    further ⊆ if greedy then further ++ [c] else c :: further := by
  cases greedy with
  | true => exact List.subset_append_left _ _
  | false => exact List.subset_cons_self _ _

theorem mem_of_greed (greedy : Bool) (c : Cursor) (further : List Cursor) :
    c ∈ if greedy then further ++ [c] else c :: further := by
  cases greedy <;> simp

theorem inTurn_grows {walk : List κ → Cursor → List Cursor × List κ} (passed : List κ)
    (hit : Cursor → List Cursor → List κ → Prop) (hdone : ∀ k, Lasting (done k))
    (hhit : ∀ c, Lasting (hit c))
    (hwalk : ∀ passed, ∀ c ∈ cs, Grows done passed (walk passed c) ∧
      hit c (walk passed c).1 (walk passed c).2) :
    Grows done passed (inTurn walk passed cs) ∧
      ∀ c ∈ cs, hit c (inTurn walk passed cs).1 (inTurn walk passed cs).2 := by
  induction cs generalizing passed with
  | nil => exact ⟨.refl _ _, fun c hc => absurd hc List.not_mem_nil⟩
  | cons b cs ih =>
    obtain ⟨hb, hbhit⟩ := hwalk passed b List.mem_cons_self
    obtain ⟨hrest, hresthit⟩ := ih (walk passed b).2 fun passed c hc =>
      hwalk passed c (List.mem_cons_of_mem _ hc)
    have hleft : (walk passed b).1 ⊆ (inTurn walk passed (b :: cs)).1 :=
      List.subset_append_left _ _
    have hright : (inTurn walk (walk passed b).2 cs).1 ⊆ (inTurn walk passed (b :: cs)).1 :=
      List.subset_append_right _ _
    have hseen : (walk passed b).2 ⊆ (inTurn walk passed (b :: cs)).2 := hrest.kept
    refine ⟨⟨fun _ hk => hrest.kept (hb.kept hk), fun k hk => ?_⟩, fun c hc => ?_⟩
    · rcases hrest.done k hk with hk | hk
      · exact (hb.done k hk).imp_right (hdone k hleft hseen)
      · exact .inr (hdone k hright (List.Subset.refl _) hk)
    · rcases List.mem_cons.mp hc with rfl | hc
      · exact hhit c hleft hseen hbhit
      · exact hhit c hright (List.Subset.refl _) (hresthit c hc)

end

/-! ## Passes that advance -/

/-- A place that a walk is done with has a cursor, and every pass from there that advances leads
to a place the walk has been to. -/
def Roamed (step : Place → Place → Prop) (n : Nat) (out : List Cursor) (seen : List Nat) : Prop :=
  ∃ d ∈ out, d.ahead = n ∧ ∀ q, step d.place q → q.ahead < n → q.ahead ∈ seen

theorem lasting_roamed (step : Place → Place → Prop) (n : Nat) : Lasting (Roamed step n) := by
  rintro out out' seen seen' hout hseen ⟨d, hd, hahead, hstep⟩
  exact ⟨d, hout hd, hahead, fun q hq hlt => hseen (hstep q hq hlt)⟩

/-- A walk has been to the place of the cursor. -/
def Visited (c : Cursor) (_ : List Cursor) (seen : List Nat) : Prop := c.ahead ∈ seen

theorem lasting_visited (c : Cursor) : Lasting (Visited c) := fun _ hseen hc => hseen hc

theorem roam_grows (hf : pass.Finds step) (greedy : Bool) {fuel : Nat} (passed : List Nat)
    (hc : c.ahead < fuel) :
    Grows (Roamed step) passed (roam pass greedy fuel passed c) ∧
      c.ahead ∈ (roam pass greedy fuel passed c).2 := by
  induction fuel generalizing passed c with
  | zero => exact absurd hc (Nat.not_lt_zero _)
  | succ fuel ih =>
    rw [roam]
    split
    · rename_i hpassed
      exact ⟨.refl _ _, by simpa using hpassed⟩
    · let next := (pass c).filter fun d => d.ahead < c.ahead
      have hnext : ∀ d ∈ next, d.ahead < c.ahead := fun d hd => by
        simpa using (List.mem_filter.mp hd).2
      obtain ⟨hgrows, hhit⟩ := inTurn_grows (c.ahead :: passed) Visited (lasting_roamed step)
        lasting_visited fun passed d hd =>
          ih passed (Nat.lt_of_lt_of_le (hnext d hd) (Nat.le_of_lt_succ hc))
      refine ⟨hgrows.enter (lasting_roamed step) (subset_of_greed greedy c _)
        ⟨c, mem_of_greed greedy c _, rfl, fun q hq hlt => ?_⟩, hgrows.kept List.mem_cons_self⟩
      obtain ⟨d, hd, rfl⟩ := hf.complete hq
      exact hhit d (List.mem_filter.mpr ⟨hd, decide_eq_true hlt⟩)

/-- Passes that stay in place change nothing, and the others are within what was seen. -/
theorem mem_seen_of_iterated {seen : List Nat} (hf : pass.Finds step)
    (hseen : ∀ n ∈ seen, Roamed step n out seen) (hout : ∀ d ∈ out, p.Onward d.place) {k : Nat}
    (hm : p.Onward m) (hmem : m.ahead ∈ seen) (h : Iterated step k m q) :
    q.ahead ∈ seen := by
  induction k generalizing m with
  | zero =>
    cases h
    exact hmem
  | succ k ih =>
    obtain ⟨n, hn, h⟩ := h
    refine ih (hm.trans (hf.onward hn)) ?_ h
    obtain ⟨d, hd, hahead, hstep⟩ := hseen _ hmem
    obtain rfl := (hout d hd).eq_of_ahead hm hahead
    rcases Nat.lt_or_eq_of_le (hf.onward hn).ahead_le with hlt | heq
    · exact hstep n hn hlt
    · rwa [heq]

theorem exists_mem_of_seen {seen : List Nat} (hf : pass.Finds step)
    (hseen : ∀ n ∈ seen, Roamed step n out seen) (hout : ∀ d ∈ out, p.Onward d.place) {k : Nat}
    (hm : p.Onward m) (hmem : m.ahead ∈ seen) (h : Iterated step k m q) :
    ∃ d ∈ out, d.place = q := by
  obtain ⟨d, hd, hahead, -⟩ := hseen _ (mem_seen_of_iterated hf hseen hout hm hmem h)
  have hq : p.Onward q := hm.trans (onward_of_iterated (fun _ _ hstep => hf.onward hstep) h)
  exact ⟨d, hd, (hout d hd).eq_of_ahead hq hahead⟩

/-- From a cursor the places behind it are walked with enough fuel. -/
theorem inTurn_roam_grows (hf : pass.Finds step) (greedy : Bool) (passed : List Nat) (c : Cursor) :
    Grows (Roamed step) passed (inTurn (roam pass greedy (c.ahead + 1)) passed (pass c)) ∧
      ∀ d ∈ pass c, d.ahead ∈ (inTurn (roam pass greedy (c.ahead + 1)) passed (pass c)).2 :=
  inTurn_grows passed Visited (lasting_roamed step) lasting_visited fun passed _ hd =>
    roam_grows hf greedy passed (Nat.lt_succ_of_le (hf.onward (hf.sound hd)).ahead_le)

theorem onward_of_iterated_pass (hf : pass.Finds step) {k : Nat} {c d : Cursor}
    (h : Iterated pass.To k c d) : c.place.Onward d.place :=
  onward_of_iterated (fun _ _ hstep => hf.onward hstep) (h.map fun _ _ hd => hf.sound hd)

theorem exists_mem_atLeastOnce (hf : pass.Finds step) (greedy : Bool) {k : Nat}
    (h : Iterated step (k + 1) c.place q) : ∃ d ∈ atLeastOnce pass greedy c, d.place = q := by
  obtain ⟨m, hm, h⟩ := h
  obtain ⟨hgrows, hhit⟩ := inTurn_roam_grows hf greedy [] c
  obtain ⟨d, hd, rfl⟩ := hf.complete hm
  have hout : ∀ b ∈ atLeastOnce pass greedy c, c.place.Onward b.place := fun b hb => by
    obtain ⟨j, hj⟩ := mem_atLeastOnce hb
    exact onward_of_iterated_pass hf hj
  exact exists_mem_of_seen hf (fun n hn => (hgrows.done n hn).resolve_left List.not_mem_nil) hout
    (hf.onward hm) (hhit d hd) h

theorem exists_mem_anyTimes (hf : pass.Finds step) (greedy : Bool) {k : Nat}
    (h : Iterated step k c.place q) : ∃ d ∈ anyTimes pass greedy c, d.place = q := by
  cases greedy with
  | true =>
    rw [anyTimes, if_pos rfl]
    cases k with
    | zero => exact ⟨c, List.mem_append_right _ List.mem_cons_self, h.symm⟩
    | succ k =>
      obtain ⟨d, hd, hplace⟩ := exists_mem_atLeastOnce hf true h
      exact ⟨d, List.mem_append_left _ hd, hplace⟩
  | false =>
    have hout : ∀ b ∈ anyTimes pass false c, c.place.Onward b.place := fun b hb => by
      obtain ⟨j, hj⟩ := mem_anyTimes hb
      exact onward_of_iterated_pass hf hj
    -- The place itself is passed from the start, and its passes are the ones walked in turn.
    obtain ⟨hgrows, hhit⟩ := inTurn_roam_grows hf false [c.ahead] c
    refine exists_mem_of_seen hf (fun n hn => ?_) hout (.refl _)
      (hgrows.kept List.mem_cons_self) h
    rcases hgrows.done n hn with hn | hn
    · refine ⟨c, List.mem_cons_self, (List.mem_singleton.mp hn).symm, fun q hq _ => ?_⟩
      obtain ⟨d, hd, rfl⟩ := hf.complete hq
      exact hhit d hd
    · exact lasting_roamed step n (List.subset_cons_self _ _) (List.Subset.refl _) hn

/-! ## Counted passes -/

theorem exists_mem_exactly (hf : pass.Finds step) (hcs : ∀ d ∈ cs, p.Onward d.place) (hc : c ∈ cs)
    {n : Nat} (h : Iterated step n c.place q) : ∃ d ∈ exactly pass n cs, d.place = q := by
  induction n generalizing cs c with
  | zero => exact ⟨c, hc, h.symm⟩
  | succ n ih =>
    obtain ⟨m, hm, h⟩ := h
    obtain ⟨d, hd, rfl⟩ := hf.complete hm
    have honward : ∀ d ∈ cs.flatMap pass, p.Onward d.place := fun d hd => by
      obtain ⟨b, hb, hd⟩ := List.mem_flatMap.mp hd
      exact (hcs b hb).trans (hf.onward (hf.sound hd))
    obtain ⟨d', hd', hplace⟩ := exists_place_mem_firsts honward (List.mem_flatMap.mpr ⟨c, hc, hd⟩)
    rw [exactly.eq_def]
    cases cs with
    | nil => cases hc
    | cons b cs =>
      exact ih (fun d hd => honward d (mem_of_mem_firsts hd)) hd' (by rwa [hplace])

/-- With so many passes left the place is one that the walk has entered; with none left it has a
cursor. -/
def Covered : Nat → Place → List Cursor → List (Nat × Nat) → Prop
  | 0, q, out, _ => ∃ d ∈ out, d.ahead = q.ahead
  | n + 1, q, _, seen => (n, q.ahead) ∈ seen

theorem lasting_covered (n : Nat) (q : Place) : Lasting (Covered n q) := by
  cases n with
  | zero =>
    rintro out out' seen seen' hout - ⟨d, hd, hahead⟩
    exact ⟨d, hout hd, hahead⟩
  | succ n => exact fun _ hseen hq => hseen hq

/-- A walk that is done with a place and a number of passes left has a cursor there, and every
pass from there leads to a place that is covered with one pass less. -/
def Counted (step : Place → Place → Prop) (k : Nat × Nat) (out : List Cursor)
    (seen : List (Nat × Nat)) : Prop :=
  ∃ d ∈ out, d.ahead = k.2 ∧ ∀ q, step d.place q → Covered k.1 q out seen

theorem lasting_counted (step : Place → Place → Prop) (k : Nat × Nat) :
    Lasting (Counted step k) := by
  rintro out out' seen seen' hout hseen ⟨d, hd, hahead, hstep⟩
  exact ⟨d, hout hd, hahead, fun q hq => lasting_covered k.1 q hout hseen (hstep q hq)⟩

theorem atMost_grows (hf : pass.Finds step) (greedy : Bool) (n : Nat) (passed : List (Nat × Nat))
    (c : Cursor) :
    Grows (Counted step) passed (atMost pass greedy n passed c) ∧
      Covered n c.place (atMost pass greedy n passed c).1 (atMost pass greedy n passed c).2 := by
  induction n generalizing passed c with
  | zero => exact ⟨.refl _ _, c, List.mem_cons_self, rfl⟩
  | succ n ih =>
    rw [atMost]
    split
    · rename_i hpassed
      exact ⟨.refl _ _, List.contains_iff_mem.mp hpassed⟩
    · obtain ⟨hgrows, hhit⟩ := inTurn_grows ((n, c.ahead) :: passed) (fun d => Covered n d.place)
        (lasting_counted step) (fun d => lasting_covered n d.place) fun passed (d : Cursor)
          (_ : d ∈ pass c) => ih passed d
      have hsub := subset_of_greed greedy c
        (inTurn (atMost pass greedy n) ((n, c.ahead) :: passed) (pass c)).1
      refine ⟨hgrows.enter (lasting_counted step) hsub
        ⟨c, mem_of_greed greedy c _, rfl, fun q hq => ?_⟩, hgrows.kept List.mem_cons_self⟩
      obtain ⟨d, hd, rfl⟩ := hf.complete hq
      exact lasting_covered n d.place hsub (List.Subset.refl _) (hhit d hd)

theorem Covered.exists_mem {seen : List (Nat × Nat)} {n : Nat} (h : Covered n q out seen)
    (hseen : ∀ k ∈ seen, Counted step k out seen) : ∃ d ∈ out, d.ahead = q.ahead := by
  cases n with
  | zero => exact h
  | succ n =>
    obtain ⟨d, hd, hahead, -⟩ := hseen _ h
    exact ⟨d, hd, hahead⟩

theorem exists_mem_of_covered {seen : List (Nat × Nat)} (hf : pass.Finds step)
    (hseen : ∀ k ∈ seen, Counted step k out seen) (hout : ∀ d ∈ out, p.Onward d.place) {n k : Nat}
    (hm : p.Onward m) (hcovered : Covered n m out seen) (hle : k ≤ n)
    (h : Iterated step k m q) : ∃ d ∈ out, d.place = q := by
  induction k generalizing n m with
  | zero =>
    cases h
    obtain ⟨d, hd, hahead⟩ := hcovered.exists_mem hseen
    exact ⟨d, hd, (hout d hd).eq_of_ahead hm hahead⟩
  | succ k ih =>
    obtain ⟨m', hm', h⟩ := h
    obtain ⟨n, rfl⟩ := Nat.exists_eq_add_of_lt hle
    obtain ⟨d, hd, hahead, hstep⟩ := hseen _ hcovered
    obtain rfl := (hout d hd).eq_of_ahead hm hahead
    exact ih (hm.trans (hf.onward hm')) (hstep m' hm') (by omega) h

theorem exists_mem_atMost (hf : pass.Finds step) (greedy : Bool) {n k : Nat} (hle : k ≤ n)
    (h : Iterated step k c.place q) : ∃ d ∈ (atMost pass greedy n [] c).1, d.place = q := by
  obtain ⟨hgrows, hcovered⟩ := atMost_grows hf greedy n [] c
  have hout : ∀ b ∈ (atMost pass greedy n [] c).1, c.place.Onward b.place := fun b hb => by
    obtain ⟨j, -, hj⟩ := mem_atMost hb
    exact onward_of_iterated_pass hf hj
  exact exists_mem_of_covered hf
    (fun k hk => (hgrows.done k hk).resolve_left List.not_mem_nil) hout (.refl _) hcovered hle h

/-! ## Loops and expressions -/

theorem Iterated.split {α : Type} {step : α → α → Prop} {j k : Nat} {p q : α}
    (h : Iterated step (j + k) p q) : ∃ m, Iterated step j p m ∧ Iterated step k m q := by
  induction j generalizing p with
  | zero => exact ⟨p, rfl, by rwa [Nat.zero_add] at h⟩
  | succ j ih =>
    rw [Nat.succ_add] at h
    obtain ⟨n, hn, h⟩ := h
    obtain ⟨m, hm, hq⟩ := ih h
    exact ⟨m, ⟨n, hn, hm⟩, hq⟩

theorem exists_mem_passes (hf : pass.Finds step) (greedy : Bool) {least : Nat} {most : Option Nat}
    {k : Nat} (hleast : least ≤ k) (hmost : ∀ n ∈ most, k ≤ max least n)
    (h : Iterated step k c.place q) :
    ∃ d ∈ passes pass least most greedy c, d.place = q := by
  have honward : ∀ d ∈ [c], c.place.Onward d.place := List.forall_mem_singleton.mpr (.refl _)
  cases most with
  | some n =>
    have hle := hmost n rfl
    obtain ⟨j, rfl⟩ := Nat.exists_eq_add_of_le hleast
    obtain ⟨m, hfirst, hmore⟩ := h.split
    obtain ⟨b, hb, rfl⟩ := exists_mem_exactly hf honward List.mem_cons_self hfirst
    obtain ⟨d, hd, hplace⟩ := exists_mem_atMost hf greedy (show j ≤ n - least by omega) hmore
    exact ⟨d, List.mem_flatMap.mpr ⟨b, hb, hd⟩, hplace⟩
  | none =>
    rw [passes]
    split
    · exact exists_mem_anyTimes hf greedy h
    · obtain ⟨j, rfl⟩ := Nat.exists_eq_add_of_le hleast
      have hsplit : least + j = least - 1 + (j + 1) := by omega
      obtain ⟨m, hfirst, hmore⟩ := (hsplit ▸ h).split
      obtain ⟨b, hb, rfl⟩ := exists_mem_exactly hf honward List.mem_cons_self hfirst
      obtain ⟨d, hd, hplace⟩ := exists_mem_atLeastOnce hf greedy hmore
      exact ⟨d, List.mem_flatMap.mpr ⟨b, hb, hd⟩, hplace⟩

/-- A loop finds what any number of passes between its bounds leads to. -/
theorem exists_mem_looped (hf : pass.Finds step) (greedy : Bool) {least : Nat} {most : Option Nat}
    {k : Nat} (hleast : least ≤ k) (hmost : ∀ n ∈ most, k ≤ max least n)
    (h : Iterated step k c.place q) :
    ∃ d ∈ looped pass least most greedy c, d.place = q := by
  have honward : ∀ d ∈ passes pass least most greedy c, c.place.Onward d.place := fun d hd => by
    obtain ⟨j, -, -, hj⟩ := mem_passes hd
    exact onward_of_iterated_pass hf hj
  obtain ⟨d, hd, rfl⟩ := exists_mem_passes hf greedy hleast hmost h
  rw [looped_eq]
  exact exists_place_mem_firsts honward hd

theorem onward_of_mem_ends {e : Expr} {c d : Cursor} (h : d ∈ ends e c) : c.place.Onward d.place :=
  Expr.onward_of_leads (leads_of_mem_ends h)

theorem exists_mem_ends {e : Expr} {c : Cursor} {q : Place} (h : e.Leads c.place q) :
    ∃ d ∈ ends e c, d.place = q := by
  induction e generalizing c q with
  | empty => exact ⟨c, List.mem_cons_self, h.symm⟩
  | chars set =>
    obtain ⟨d, hset, hrest, hbefore⟩ := h
    refine ⟨{ c with before := some d, rest := q.rest }, ?_, ?_⟩
    · rw [ends, show c.rest = d :: q.rest from hrest]
      simp [hset]
    · rw [Cursor.place, ← hbefore]
  | look a =>
    obtain ⟨rfl, hholds⟩ := h
    have hends : ends (.look a) c = [c] := if_pos hholds
    exact ⟨c, by rw [hends]; exact List.mem_cons_self, rfl⟩
  | seq a b iha ihb =>
    obtain ⟨m, hm, hq⟩ := h
    obtain ⟨b', hb', rfl⟩ := iha hm
    obtain ⟨d, hd, rfl⟩ := ihb hq
    refine exists_place_mem_firsts (p := c.place) ?_ (List.mem_flatMap.mpr ⟨b', hb', hd⟩)
    intro d' hd'
    obtain ⟨m, hm, hd'⟩ := List.mem_flatMap.mp hd'
    exact (onward_of_mem_ends hm).trans (onward_of_mem_ends hd')
  | alt a b iha ihb =>
    have honward : ∀ d ∈ ends a c ++ ends b c, c.place.Onward d.place := fun d hd =>
      (List.mem_append.mp hd).elim onward_of_mem_ends onward_of_mem_ends
    rcases h with h | h
    · obtain ⟨d, hd, rfl⟩ := iha h
      exact exists_place_mem_firsts honward (List.mem_append_left _ hd)
    · obtain ⟨d, hd, rfl⟩ := ihb h
      exact exists_place_mem_firsts honward (List.mem_append_right _ hd)
  | loop body least most greedy ih =>
    have hfinds : Pass.Finds (fun d => ends body d) body.Leads :=
      ⟨leads_of_mem_ends, ih, Expr.onward_of_leads⟩
    obtain ⟨k, hleast, hmost, hk⟩ := h
    exact exists_mem_looped hfinds greedy hleast hmost hk
  | group index body ih =>
    obtain ⟨d, hd, hplace⟩ := ih h
    exact ⟨c.close index d, List.mem_map_of_mem hd, hplace⟩

/-- The matcher has an end exactly where the expression leads. -/
theorem exists_mem_ends_iff {e : Expr} {c : Cursor} {q : Place} :
    (∃ d ∈ ends e c, d.place = q) ↔ e.Leads c.place q := by
  constructor
  · rintro ⟨d, hd, rfl⟩
    exact leads_of_mem_ends hd
  · exact exists_mem_ends

/-! ## Searches -/

theorem isSome_head?_ends_iff {e : Expr} {c : Cursor} :
    (ends e c).head?.isSome ↔ ∃ q, e.Leads c.place q := by
  simp only [← exists_mem_ends_iff]
  cases ends e c with
  | nil => simp
  | cons d ds => simp

/-- A search finds a match wherever in the text there is one. -/
theorem isSome_leftmost {e : Expr} (before : Option Char) (skipped rest : List Char)
    (h : e.Leads ⟨skipped.getLast?.or before, rest⟩ q) :
    (leftmost e before (skipped ++ rest)).isSome := by
  induction skipped generalizing before with
  | nil =>
    have hhead : (ends e ⟨before, rest, []⟩).head?.isSome := isSome_head?_ends_iff.mpr ⟨q, h⟩
    rw [List.nil_append, leftmost.eq_def]
    cases rest with
    | nil => exact hhead
    | cons d rest =>
      obtain ⟨c, hc⟩ := Option.isSome_iff_exists.mp hhead
      simp only [hc, Option.isSome_some]
  | cons d skipped ih =>
    rw [List.cons_append, leftmost]
    split
    · rfl
    · refine ih (some d) ?_
      cases hlast : skipped.getLast? with
      | none => simpa [List.getLast?_cons, hlast] using h
      | some b => simpa [List.getLast?_cons, hlast] using h

/-- Between the anchors of a text there is a match exactly where the rest takes the whole text. -/
theorem isMatch_iff_leadsAll {source : String} {es : List Expr} {text : String} :
    isMatch ⟨source, Expr.seqAll (.look .textStart :: es ++ [.look .textEnd])⟩ text = true ↔
      ∃ q : Place, q.rest = [] ∧ Expr.LeadsAll es ⟨none, text.toList⟩ q := by
  constructor
  · exact leadsAll_of_isMatch
  · rintro ⟨q, hrest, hes⟩
    refine isSome_leftmost (q := q) none [] text.toList ?_
    rw [Expr.leads_seqAll, List.cons_append]
    refine ⟨_, ⟨rfl, rfl⟩, (Expr.leadsAll_append es _ _ q).mpr ⟨q, hes, q, ⟨rfl, ?_⟩, rfl⟩⟩
    rw [hrest]
    rfl

end RoutePlan.Regex
