import RoutePlan.Proofs.Pattern.Source
import RoutePlan.Proofs.Regex.Completeness
import RoutePlan.Proofs.Regex.Groups

/-! # What a pattern matches

Where every segment of a pattern is a text, a parameter without a constraint or a parameter for
numbers, the texts that its expression matches can be told segment by segment: behind a slash
each segment takes a text of its own kind. The texts that the parameters take are the groups of
the match, in the order of the parameters.
-/

namespace RoutePlan.Pattern

open Regex Regex.Reading

namespace Segment

/-- A text that is not the text of a parameter, or a parameter without a constraint, or one for
numbers. -/
def Plain : Segment → Prop
  | .fixed text => text ≠ [] ∧ '/' ∉ text ∧ ∀ s : Segment, s.IsParam → s.written ≠ text
  | .param name constraint => IsIdent name ∧ ∀ inside ∈ constraint, inside = "\\d+".toList

instance : DecidablePred Plain
  | .fixed text =>
    decidable_of_iff (text ≠ [] ∧ '/' ∉ text ∧ read text = .fixed text) <| by
      rw [read_eq_fixed_iff, Plain]
  | .param name constraint =>
    inferInstanceAs (Decidable (IsIdent name ∧ ∀ inside ∈ constraint, inside = "\\d+".toList))

/-- The texts that stand at the place of a segment. -/
def Accepts : Segment → List Char → Prop
  | .fixed text, taken => taken = text
  | .param _ none, taken => taken ≠ [] ∧ '/' ∉ taken
  | .param _ (some _), taken => taken ≠ [] ∧ ∀ c ∈ taken, Text.isDecimalDigit c = true

/-- The characters that a parameter takes. -/
def alphabet : Option (List Char) → Text.CharSet
  | none => fun c => c != '/'
  | some _ => Text.isDecimalDigit

/-- The number of groups in the expressions of a segment. -/
def groups : Segment → Nat
  | .fixed _ => 0
  | .param _ _ => 1

/-- The expressions of a segment where so many groups come before it. -/
def exprs (before : Nat) : Segment → List Expr
  | .fixed text => ('/' :: text).map Expr.literal
  | .param _ constraint =>
    [Expr.literal '/', .group (before + 1) (.loop (.chars (alphabet constraint)) 1 none true)]

variable {s : Segment} {taken : List Char}

theorem accepts_param_iff (name : List Char) (constraint : Option (List Char)) :
    Accepts (.param name constraint) taken ↔
      taken ≠ [] ∧ ∀ c ∈ taken, alphabet constraint c = true := by
  cases constraint with
  | none =>
    have hslash : (∀ c ∈ taken, alphabet none c = true) ↔ '/' ∉ taken := by
      simp only [alphabet, bne_iff_ne]
      exact ⟨fun h hm => h '/' hm rfl, fun h c hc => ne_of_mem_of_not_mem hc h⟩
    rw [hslash]
    rfl
  | some inside => rfl

namespace Plain

theorem isParam {name : List Char} {constraint : Option (List Char)}
    (h : Plain (.param name constraint)) : IsParam (.param name constraint) := by
  refine ⟨h.1, fun inside hi => ?_⟩
  rw [h.2 inside hi]
  decide

theorem legible (h : s.Plain) : s.Legible := by
  cases s with
  | fixed text => exact ⟨h.2.1, read_eq_fixed_iff.mpr h.2.2⟩
  | param name constraint =>
    refine ⟨?_, h.isParam.read_written⟩
    cases constraint with
    | none => simp [written, not_mem_ident_slash h.1]
    | some inside =>
      obtain rfl := h.2 inside rfl
      simp [written, not_mem_ident_slash h.1]

theorem written_ne_nil (h : s.Plain) : s.written ≠ [] := by
  cases s with
  | fixed text => exact h.1
  | param name constraint => cases constraint <;> simp [written]

/-- Slashes are left to the pattern. -/
theorem not_mem_slash (h : s.Plain) (ht : s.Accepts taken) : '/' ∉ taken := by
  cases s with
  | fixed text =>
    obtain rfl : taken = text := ht
    exact h.2.1
  | param name constraint =>
    cases constraint with
    | none => exact ht.2
    | some inside => exact not_mem_slash_of_digits ht.2

/-- A plain segment is read as its expressions, whatever comes before it. -/
theorem reads (h : s.Plain) (es : List (Expr × Nat)) (before : Nat) :
    ∃ fs : List (Expr × Nat), fs.map (·.1) = s.exprs before ∧ (∀ f ∈ fs, f.2 < nestLimit) ∧
      Reads (flat es before) s.source (flat (es ++ fs) (before + s.groups)) := by
  cases s with
  | fixed text =>
    refine ⟨('/' :: text).map fun c => (Expr.literal c, 0), ?_, ?_, reads_fixed h.1 es before⟩
    · simp [exprs, Function.comp_def]
    · intro f hf
      obtain ⟨_, -, rfl⟩ := List.mem_map.mp hf
      exact Nat.succ_pos _
  | param name constraint =>
    have hparam : ∃ height < nestLimit,
        Reads (flat (es ++ [(Expr.literal '/', 0)]) before)
          ('(' :: constraint.getD "[^/]+".toList ++ [')'])
          (flat (es ++ [(Expr.literal '/', 0)] ++ [(.group (before + 1)
            (.loop (.chars (alphabet constraint)) 1 none true), height)]) (before + 1)) := by
      cases constraint with
      | none => exact ⟨3, by decide, reads_unconstrained _ before⟩
      | some inside =>
        obtain rfl := h.2 inside rfl
        exact ⟨2, by decide, reads_digits _ before⟩
    obtain ⟨height, hheight, hreads⟩ := hparam
    refine ⟨[(Expr.literal '/', 0), (.group (before + 1)
      (.loop (.chars (alphabet constraint)) 1 none true), height)], rfl, ?_, ?_⟩
    · intro f hf
      rcases List.mem_pair.mp hf with rfl | rfl
      · exact Nat.succ_pos _
      · exact hheight
    · rw [List.append_cons]
      exact (reads_slash es before).append hreads

end Plain

/-! ## One segment -/

/-- The expressions of a segment take a slash and a text of its kind. -/
theorem leadsAll_exprs_iff {before : Nat} {p q : Place} :
    Expr.LeadsAll (s.exprs before) p q ↔ ∃ taken, s.Accepts taken ∧ p.Spans ('/' :: taken) q := by
  cases s with
  | fixed text =>
    rw [exprs, Expr.leadsAll_literal_iff]
    exact ⟨fun h => ⟨text, rfl, h⟩, fun ⟨_, htaken, h⟩ => htaken ▸ h⟩
  | param name constraint =>
    have hgroup : ∀ m n, (Expr.group (before + 1) (.loop (.chars (alphabet constraint)) 1 none
        true)).Leads m n ↔ ∃ taken, Accepts (.param name constraint) taken ∧ m.Spans taken n := by
      intro m n
      have hloop : (Expr.loop (.chars (alphabet constraint)) 1 none true).Leads m n ↔ _ :=
        Expr.leads_plus_iff
      simp only [accepts_param_iff, and_assoc]
      exact hloop
    simp only [exprs, Expr.LeadsAll, Expr.leads_literal_iff, hgroup]
    constructor
    · rintro ⟨m, hm, _, ⟨taken, htaken, hq⟩, rfl⟩
      exact ⟨taken, htaken, Place.spans_cons_iff.mpr ⟨m, hm, hq⟩⟩
    · rintro ⟨taken, htaken, hq⟩
      obtain ⟨m, hm, hq⟩ := Place.spans_cons_iff.mp hq
      exact ⟨m, hm, q, ⟨taken, htaken, hq⟩, rfl⟩

/-- The groups kept so far, and the one of the segment if it has one. -/
def keep (before : Nat) (taken : List Char) (kept : List (Nat × List Char)) :
    Segment → List (Nat × List Char)
  | .fixed _ => kept
  | .param _ _ => (before + 1, taken) :: kept

theorem groups_of_endsAll {before : Nat} {c d : Cursor} (h : EndsAll (s.exprs before) c d) :
    ∃ taken, s.Accepts taken ∧ c.place.Spans ('/' :: taken) d.place ∧
      d.groups = s.keep before taken c.groups := by
  obtain ⟨taken, htaken, hspans⟩ := leadsAll_exprs_iff.mp h.leadsAll
  refine ⟨taken, htaken, hspans, ?_⟩
  cases s with
  | fixed text =>
    refine h.groups_of_bare fun e he => ?_
    obtain ⟨c, -, rfl⟩ := List.mem_map.mp he
    exact trivial
  | param name constraint =>
    obtain ⟨m, hslash, _, hgroup, rfl⟩ := h
    have hloop : (Expr.loop (.chars (alphabet constraint)) 1 none true).Bare := trivial
    have hliteral : (Expr.literal '/').Bare := trivial
    obtain ⟨inside, hinside, hgroups⟩ := groups_of_group hloop hgroup
    have hm : c.place.Spans ['/'] m.place :=
      Expr.leads_literal_iff.mp (leads_of_mem_ends hslash)
    have heq : inside = taken := by simpa using (hm.append hinside).1.symm.trans hspans.1
    rw [hgroups, groups_of_bare hliteral hslash, heq, keep]

end Segment

/-! ## Patterns -/

/-- The expressions of segments where so many groups come before them. -/
def exprs : Nat → List Segment → List Expr
  | _, [] => []
  | before, s :: ss => s.exprs before ++ exprs (before + s.groups) ss

/-- The texts that the parameters take, where every segment takes a text. -/
def captured : List Segment → List (List Char) → List (List Char)
  | .fixed _ :: ss, _ :: takens => captured ss takens
  | .param _ _ :: ss, taken :: takens => taken :: captured ss takens
  | _, _ => []

variable {ss : List Segment}

theorem reads_exprs (h : ∀ s ∈ ss, s.Plain) (es : List (Expr × Nat)) (before : Nat) :
    ∃ (fs : List (Expr × Nat)) (after : Nat), fs.map (·.1) = exprs before ss ∧
      (∀ f ∈ fs, f.2 < nestLimit) ∧
        Reads (flat es before) (ss.flatMap Segment.source) (flat (es ++ fs) after) := by
  induction ss generalizing es before with
  | nil =>
    refine ⟨[], before, rfl, fun f hf => absurd hf List.not_mem_nil, ?_⟩
    rw [List.append_nil]
    exact Reads.nil _
  | cons s ss ih =>
    obtain ⟨hs, hss⟩ := List.forall_mem_cons.mp h
    obtain ⟨fs, hexprs, hheights, hreads⟩ := hs.reads es before
    obtain ⟨gs, after, hexprs', hheights', hreads'⟩ := ih hss (es ++ fs) (before + s.groups)
    refine ⟨fs ++ gs, after, ?_, List.forall_mem_append.mpr ⟨hheights, hheights'⟩, ?_⟩
    · rw [List.map_append, hexprs, hexprs', exprs]
    · rw [List.flatMap_cons, ← List.append_assoc]
      exact hreads.append hreads'

/-- The expression of a pattern of plain segments, with the groups numbered in order. -/
theorem ofSource?_plain (h : ∀ s ∈ ss, s.Plain) :
    Regex.ofSource? (source (String.ofList (written ss))) =
      some ⟨source (String.ofList (written ss)),
        Expr.seqAll (.look .textStart :: exprs 0 ss ++ [.look .textEnd])⟩ := by
  obtain ⟨fs, after, hexprs, hheights, hreads⟩ := reads_exprs h [(.look .textStart, 0)] 0
  rw [← hexprs]
  exact ofSource?_of_reads (fun s hs => (h s hs).legible) (fun s hs => (h s hs).written_ne_nil)
    hheights hreads

theorem leadsAll_exprs_iff {before : Nat} {p q : Place} :
    Expr.LeadsAll (exprs before ss) p q ↔
      ∃ takens, List.Forall₂ Segment.Accepts ss takens ∧
        p.Spans (takens.flatMap ('/' :: ·)) q := by
  induction ss generalizing before p with
  | nil =>
    simp only [exprs, Expr.LeadsAll, List.forall₂_nil_left_iff, exists_eq_left, List.flatMap_nil,
      Place.spans_nil_iff]
  | cons s ss ih =>
    simp only [exprs, Expr.leadsAll_append, Segment.leadsAll_exprs_iff, ih]
    constructor
    · rintro ⟨m, ⟨taken, htaken, hm⟩, takens, htakens, hq⟩
      exact ⟨taken :: takens, .cons htaken htakens, hm.append hq⟩
    · rintro ⟨_, hforall, hq⟩
      obtain ⟨taken, takens, htaken, htakens, rfl⟩ := List.forall₂_cons_left_iff.mp hforall
      obtain ⟨m, hm, hq⟩ := Place.Spans.split hq
      exact ⟨m, ⟨taken, htaken, hm⟩, takens, htakens, hq⟩

/-- A group that is kept stays what it is: later ones have other numbers. -/
theorem lookup_of_endsAll {before : Nat} {c d : Cursor} (h : EndsAll (exprs before ss) c d) :
    ∃ takens, List.Forall₂ Segment.Accepts ss takens ∧
      c.place.Spans (takens.flatMap ('/' :: ·)) d.place ∧
      (∀ k ≤ before, d.groups.lookup k = c.groups.lookup k) ∧
      ∀ i, ∀ taken ∈ (captured ss takens)[i]?, d.groups.lookup (before + 1 + i) = some taken := by
  induction ss generalizing before c with
  | nil =>
    obtain rfl : d = c := h
    exact ⟨[], .nil, Place.spans_nil_iff.mpr rfl, fun _ _ => rfl, fun i taken hi => by cases hi⟩
  | cons s ss ih =>
    obtain ⟨m, hs, hss⟩ := EndsAll.split h
    obtain ⟨taken, htaken, hm, hgroups⟩ := Segment.groups_of_endsAll hs
    obtain ⟨takens, htakens, hd, hkept, hlookup⟩ := ih hss
    refine ⟨taken :: takens, .cons htaken htakens, hm.append hd, ?_⟩
    rw [hgroups] at hkept
    cases s with
    | fixed text => exact ⟨hkept, hlookup⟩
    | param name constraint =>
      simp only [Segment.groups, Segment.keep] at hkept hlookup
      refine ⟨fun k hk => ?_, fun i t ht => ?_⟩
      · have hne : (k == before + 1) = false := beq_false_of_ne (by omega)
        rw [hkept k (Nat.le_succ_of_le hk), List.lookup_cons, hne]
      · cases i with
        | zero =>
          obtain rfl : taken = t := by simpa [captured] using ht
          rw [Nat.add_zero, hkept _ (Nat.le_refl _), List.lookup_cons_self]
        | succ i =>
          have hi := hlookup i t (by simpa [captured] using ht)
          rwa [show before + 1 + (i + 1) = before + 1 + 1 + i by omega]

/-- The groups are numbered without a gap. -/
theorem groupsAll_exprs {takens : List (List Char)}
    (h : List.Forall₂ Segment.Accepts ss takens) (before : Nat) :
    max before (Expr.groupsAll (exprs before ss)) = before + (captured ss takens).length := by
  induction h generalizing before with
  | nil => exact Nat.max_zero before
  | @cons s taken ss takens _ _ ih =>
    have hrest := ih (before + s.groups)
    rw [exprs, Expr.groupsAll_append]
    cases s with
    | fixed text =>
      rw [Segment.exprs, Expr.groupsAll_map_literal, Nat.zero_max]
      exact hrest
    | param name constraint =>
      have hown : Expr.groupsAll (Segment.exprs before (.param name constraint)) = before + 1 := by
        simp [Segment.exprs, Expr.groupsAll, Expr.groups, Expr.literal]
      simp only [Segment.groups] at hrest ⊢
      rw [hown, hrest, captured, List.length_cons]
      omega

/-- Between the anchors the expressions of segments match the texts that fall, slash by slash, into
one for each segment. -/
theorem isMatch_exprs_iff (source : String) (ss : List Segment) (text : String) :
    isMatch ⟨source, Expr.seqAll (.look .textStart :: exprs 0 ss ++ [.look .textEnd])⟩ text = true ↔
      ∃ takens, List.Forall₂ Segment.Accepts ss takens ∧
        text.toList = takens.flatMap ('/' :: ·) := by
  rw [isMatch_iff_leadsAll]
  simp only [leadsAll_exprs_iff]
  constructor
  · rintro ⟨q, hrest, takens, htakens, htext, -⟩
    exact ⟨takens, htakens, htext.trans (by rw [hrest, List.append_nil])⟩
  · rintro ⟨takens, htakens, htext⟩
    exact ⟨⟨(takens.flatMap ('/' :: ·)).getLast?.or none, []⟩, rfl, takens, htakens,
      by rw [htext, List.append_nil], rfl⟩

theorem isMatch_plain_iff (h : ∀ s ∈ ss, s.Plain) {re : Regex}
    (hre : Regex.ofSource? (source (String.ofList (written ss))) = some re) (text : String) :
    re.isMatch text = true ↔ ∃ takens, List.Forall₂ Segment.Accepts ss takens ∧
      text.toList = takens.flatMap ('/' :: ·) := by
  obtain rfl := Option.some.inj ((ofSource?_plain h).symm.trans hre)
  exact isMatch_exprs_iff _ ss text

/-- A text falls in one way only into what plain segments take. -/
theorem takens_unique (h : ∀ s ∈ ss, s.Plain) {takens takens' : List (List Char)}
    (htakens : List.Forall₂ Segment.Accepts ss takens)
    (htakens' : List.Forall₂ Segment.Accepts ss takens')
    (heq : takens.flatMap ('/' :: ·) = takens'.flatMap ('/' :: ·)) : takens = takens' := by
  have hslash : ∀ {takens}, List.Forall₂ Segment.Accepts ss takens → ∀ t ∈ takens, '/' ∉ t :=
    forall_mem_of_forall₂ fun s hs _ ht => (h s hs).not_mem_slash ht
  have hpieces := congrArg pieces heq
  rw [pieces_slashed (hslash htakens), pieces_slashed (hslash htakens')] at hpieces
  exact (List.cons.inj hpieces).2

theorem captures?_plain (h : ∀ s ∈ ss, s.Plain) {re : Regex}
    (hre : Regex.ofSource? (source (String.ofList (written ss))) = some re) {text : String}
    {takens : List (List Char)} (htakens : List.Forall₂ Segment.Accepts ss takens)
    (htext : text.toList = takens.flatMap ('/' :: ·)) :
    re.captures? text = some ((captured ss takens).map fun t => some (String.ofList t)) := by
  have hmatch := (isMatch_plain_iff h hre text).mpr ⟨takens, htakens, htext⟩
  obtain rfl := Option.some.inj ((ofSource?_plain h).symm.trans hre)
  rw [isMatch_eq_isSome_captures?] at hmatch
  obtain ⟨found, hfound⟩ := Option.isSome_iff_exists.mp hmatch
  obtain ⟨d, hrest, hends, rfl⟩ := endsAll_of_captures? hfound
  obtain ⟨takens', htakens', hspans, -, hlookup⟩ := lookup_of_endsAll hends
  have hwhole : text.toList = takens'.flatMap ('/' :: ·) := by
    have htaken : text.toList = takens'.flatMap ('/' :: ·) ++ d.rest := hspans.1
    rw [htaken, hrest, List.append_nil]
  obtain rfl := takens_unique h htakens' htakens (hwhole.symm.trans htext)
  have hcount := groupsAll_exprs htakens 0
  rw [Nat.zero_max, Nat.zero_add] at hcount
  rw [hfound, hcount]
  refine congrArg some (List.ext_getElem (by simp) fun i hi hi' => ?_)
  have hlength : i < (captured ss takens').length := by simpa using hi'
  have hget := hlookup i _ (List.getElem?_eq_getElem hlength)
  rw [Nat.zero_add, Nat.add_comm] at hget
  simp [hget]

theorem params_plain (h : ∀ s ∈ ss, s.Plain) :
    params (String.ofList (written ss)) = ss.filterMap fun s => s.name?.map String.ofList :=
  params_written fun s hs => (h s hs).legible

/-- A pattern of plain segments has an expression, and wherever it is not too large: its parameters
are those of the segments in order; it matches the texts that fall, slash by slash, into one for
each segment, and no others; and what it captures of such a text is what the parameters take, in
their order. -/
theorem regex?_plain (ss : List Segment) (h : ∀ s ∈ ss, s.Plain) :
    let pattern := String.ofList (written ss)
    params pattern = (ss.filterMap fun s => s.name?.map String.ofList) ∧
      (∃ re, Regex.ofSource? (source pattern) = some re ∧
        (re.expr.fits = true → regex? pattern = some re)) ∧
      ∀ re, regex? pattern = some re → ∀ text : String,
        (re.isMatch text = true ↔ ∃ takens, List.Forall₂ Segment.Accepts ss takens ∧
          text.toList = takens.flatMap ('/' :: ·)) ∧
        ∀ takens, List.Forall₂ Segment.Accepts ss takens →
          text.toList = takens.flatMap ('/' :: ·) →
          re.captures? text = some ((captured ss takens).map fun t => some (String.ofList t)) := by
  intro pattern
  refine ⟨params_plain h, ⟨_, ofSource?_plain h, regex?_of_fits (ofSource?_plain h)⟩, ?_⟩
  intro re hre text
  have hsource : Regex.ofSource? (source pattern) = some re := Option.eq_some_of_filter_eq_some hre
  exact ⟨isMatch_plain_iff h hsource text, fun _ => captures?_plain h hsource⟩

/-- A text with characters that mean something in expressions, a name and a number. -/
def versioned : List Segment :=
  [.fixed "v1.0+(beta)".toList, .param "name".toList none, .fixed ":(d)".toList,
    .param "id".toList (some "\\d+".toList)]

theorem regex?_versioned :
    String.ofList (written versioned) = "/v1.0+(beta)/:name/:(d)/:id(\\d+)" ∧
      ∃ re, regex? "/v1.0+(beta)/:name/:(d)/:id(\\d+)" = some re ∧
        re.captures? "/v1.0+(beta)/a b.c/:(d)/4٢" = some [some "a b.c", some "4٢"] ∧
        re.isMatch "/v1x0+(beta)/a/:(d)/4" = false := by
  have hwritten : String.ofList (written versioned) = "/v1.0+(beta)/:name/:(d)/:id(\\d+)" := by
    decide
  obtain ⟨-, -, hmatches⟩ := regex?_plain versioned (by decide)
  rw [hwritten] at hmatches
  obtain ⟨re, hre⟩ : ∃ re, regex? "/v1.0+(beta)/:name/:(d)/:id(\\d+)" = some re :=
    Option.isSome_iff_exists.mp (by decide +kernel)
  refine ⟨hwritten, re, hre, ?_, ?_⟩
  · refine (hmatches re hre _).2 ["v1.0+(beta)".toList, "a b.c".toList, ":(d)".toList,
      "4٢".toList] ?_ (by decide)
    exact .cons rfl (.cons ⟨by decide, by decide⟩
      (.cons rfl (.cons ⟨by decide, List.all_eq_true.mp (by decide)⟩ .nil)))
  · rw [← Bool.not_eq_true, (hmatches re hre _).1]
    rintro ⟨takens, htakens, htext⟩
    obtain ⟨first, rest, hfirst, -, rfl⟩ := List.forall₂_cons_left_iff.mp htakens
    obtain rfl : first = "v1.0+(beta)".toList := hfirst
    exact absurd (congrArg (List.take 4) htext) (by simp)

end RoutePlan.Pattern
