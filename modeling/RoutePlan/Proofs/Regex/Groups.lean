import RoutePlan.Proofs.Regex.Matching

/-! # The texts of groups

Only a numbered group keeps a text, the one between its start and its end. So where the ends of a
sequence are followed expression by expression, what is kept can be read off the groups in it.
-/

namespace RoutePlan.Regex

namespace Expr

/-- Without a numbered group. -/
def Bare : Expr → Prop
  | .empty | .chars _ | .look _ => True
  | .seq a b | .alt a b => a.Bare ∧ b.Bare
  | .loop body _ _ _ => body.Bare
  | .group _ _ => False

/-- The highest number of a group in a sequence. -/
def groupsAll (es : List Expr) : Nat := es.foldr (fun e n => max e.groups n) 0

theorem groupsAll_cons (e : Expr) (es : List Expr) :
    groupsAll (e :: es) = max e.groups (groupsAll es) := rfl

theorem groupsAll_append (es fs : List Expr) :
    groupsAll (es ++ fs) = max (groupsAll es) (groupsAll fs) := by
  induction es with
  | nil => exact (Nat.zero_max _).symm
  | cons e es ih => rw [List.cons_append, groupsAll_cons, groupsAll_cons, ih, Nat.max_assoc]

theorem groupsAll_map_literal (text : List Char) : groupsAll (text.map literal) = 0 := by
  induction text with
  | nil => rfl
  | cons c text ih => rw [List.map_cons, groupsAll_cons, ih, literal, groups, Nat.max_self]

theorem groups_foldl_seq (e : Expr) (es : List Expr) :
    (es.foldl .seq e).groups = max e.groups (groupsAll es) := by
  induction es generalizing e with
  | nil => exact (Nat.max_zero _).symm
  | cons f es ih => rw [List.foldl_cons, ih, groupsAll_cons, groups, Nat.max_assoc]

theorem groups_seqAll (es : List Expr) : (seqAll es).groups = groupsAll es := by
  cases es with
  | nil => rfl
  | cons e es => exact groups_foldl_seq e es

end Expr

variable {c d : Cursor} {e : Expr} {es fs : List Expr}

/-! ## What is kept -/

theorem groups_of_iterated {pass : Pass} (hpass : ∀ {c d}, d ∈ pass c → d.groups = c.groups)
    {k : Nat} (h : Iterated pass.To k c d) : d.groups = c.groups := by
  induction k generalizing c with
  | zero => rw [show d = c from h]
  | succ k ih =>
    obtain ⟨m, hm, h⟩ := h
    rw [ih h, hpass hm]

theorem groups_of_bare (hb : e.Bare) (h : d ∈ ends e c) : d.groups = c.groups := by
  induction e generalizing c d with
  | empty => rw [List.mem_singleton.mp h]
  | chars set =>
    rw [ends] at h
    split at h
    · cases h
    · split at h
      · rw [List.mem_singleton.mp h]
      · cases h
  | look a =>
    rw [ends] at h
    split at h
    · rw [List.mem_singleton.mp h]
    · cases h
  | seq a b iha ihb =>
    obtain ⟨m, hm, hd⟩ := List.mem_flatMap.mp (mem_of_mem_firsts h)
    rw [ihb hb.2 hd, iha hb.1 hm]
  | alt a b iha ihb =>
    exact (List.mem_append.mp (mem_of_mem_firsts h)).elim (iha hb.1) (ihb hb.2)
  | loop body least most greedy ih =>
    obtain ⟨k, -, -, hk⟩ := mem_passes (mem_of_mem_firsts h)
    exact groups_of_iterated (ih hb) hk
  | group index body => exact hb.elim

/-- A numbered group keeps the text it takes, before all that was kept so far. -/
theorem groups_of_group {index : Nat} {body : Expr} (hb : body.Bare)
    (h : d ∈ ends (.group index body) c) :
    ∃ taken, c.place.Spans taken d.place ∧ d.groups = (index, taken) :: c.groups := by
  obtain ⟨m, hm, rfl⟩ := List.mem_map.mp h
  obtain ⟨taken, hspans⟩ := Expr.onward_of_leads (leads_of_mem_ends hm)
  refine ⟨taken, hspans, ?_⟩
  have hrest : c.rest = taken ++ m.rest := hspans.1
  have hlength : c.ahead - m.ahead = taken.length := by simp [Cursor.ahead, hrest]
  rw [Cursor.close, hlength, hrest, List.take_left, groups_of_bare hb hm]

/-! ## Sequences -/

/-- One expression after another, from cursor to cursor. -/
def EndsAll : List Expr → Cursor → Cursor → Prop
  | [], c, d => d = c
  | e :: es, c, d => ∃ m ∈ ends e c, EndsAll es m d

theorem endsAll_foldl_seq (h : d ∈ ends (es.foldl .seq e) c) : ∃ m ∈ ends e c, EndsAll es m d := by
  induction es generalizing e with
  | nil => exact ⟨d, h, rfl⟩
  | cons f es ih =>
    obtain ⟨m, hm, hd⟩ := ih h
    obtain ⟨n, hn, hm⟩ := List.mem_flatMap.mp (mem_of_mem_firsts hm)
    exact ⟨n, hn, m, hm, hd⟩

theorem endsAll_of_mem_ends (h : d ∈ ends (Expr.seqAll es) c) : EndsAll es c d := by
  cases es with
  | nil => exact List.mem_singleton.mp h
  | cons e es => exact endsAll_foldl_seq h

theorem EndsAll.split (h : EndsAll (es ++ fs) c d) : ∃ m, EndsAll es c m ∧ EndsAll fs m d := by
  induction es generalizing c with
  | nil => exact ⟨c, rfl, h⟩
  | cons e es ih =>
    obtain ⟨n, hn, h⟩ := h
    obtain ⟨m, hm, hd⟩ := ih h
    exact ⟨m, ⟨n, hn, hm⟩, hd⟩

theorem EndsAll.leadsAll (h : EndsAll es c d) : Expr.LeadsAll es c.place d.place := by
  induction es generalizing c with
  | nil => exact congrArg Cursor.place h
  | cons e es ih =>
    obtain ⟨m, hm, h⟩ := h
    exact ⟨m.place, leads_of_mem_ends hm, ih h⟩

theorem EndsAll.groups_of_bare (hb : ∀ e ∈ es, e.Bare) (h : EndsAll es c d) :
    d.groups = c.groups := by
  induction es generalizing c with
  | nil => rw [show d = c from h]
  | cons e es ih =>
    obtain ⟨hbe, hb⟩ := List.forall_mem_cons.mp hb
    obtain ⟨m, hm, h⟩ := h
    rw [ih hb h, Regex.groups_of_bare hbe hm]

/-! ## Captures -/

theorem isMatch_eq_isSome_captures? (r : Regex) (text : String) :
    r.isMatch text = (r.captures? text).isSome := by
  rw [isMatch, captures?, Option.isSome_map]

theorem eq_of_mem_ends_look {a : Assertion} (h : d ∈ ends (.look a) c) :
    d = c ∧ a.holds c.before c.rest = true := by
  rw [ends] at h
  split at h
  · rename_i hholds
    exact ⟨List.mem_singleton.mp h, hholds⟩
  · cases h

/-- Between the anchors of a text the groups are those of a way through the whole text. -/
theorem endsAll_of_captures? {source : String} {text : String} {found : List (Option String)}
    (h : captures? ⟨source, Expr.seqAll (.look .textStart :: es ++ [.look .textEnd])⟩ text =
      some found) :
    ∃ d : Cursor, d.rest = [] ∧ EndsAll es ⟨none, text.toList, []⟩ d ∧
      found = (List.range (Expr.groupsAll es)).map fun i =>
        (d.groups.lookup (i + 1)).map String.ofList := by
  obtain ⟨d, hd, rfl⟩ := Option.map_eq_some_iff.mp h
  obtain ⟨skipped, rest, htext, hends⟩ := mem_ends_of_leftmost hd
  have hmem : d ∈ ends (Expr.seqAll (.look .textStart :: (es ++ [.look .textEnd])))
      ⟨skipped.getLast?.or none, rest, []⟩ := hends
  obtain ⟨m, hm, hafter⟩ := endsAll_of_mem_ends hmem
  obtain ⟨n, hn, k, hk, rfl⟩ := hafter.split
  obtain ⟨rfl, hstart⟩ := eq_of_mem_ends_look hm
  obtain ⟨rfl, hend⟩ := eq_of_mem_ends_look hk
  have hskipped : skipped = [] := by simpa [Assertion.holds] using hstart
  have hgroups : (Expr.seqAll (.look .textStart :: es ++ [.look .textEnd])).groups =
      Expr.groupsAll es := by
    rw [Expr.groups_seqAll, List.cons_append, Expr.groupsAll_cons, Expr.groupsAll_append]
    simp [Expr.groups, Expr.groupsAll]
  refine ⟨d, by simpa [Assertion.holds] using hend, ?_, by rw [hgroups]⟩
  rw [htext, hskipped]
  simpa [hskipped] using hn

end RoutePlan.Regex
