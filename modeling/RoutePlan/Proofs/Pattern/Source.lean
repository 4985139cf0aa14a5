import Mathlib.Data.List.Forall2
import RoutePlan.Proofs.Pattern.Segment
import RoutePlan.Proofs.Regex.Reads

/-! # The expression of a pattern

The source of a pattern is read segment by segment. A segment that stands for itself becomes a
literal text behind a slash. A parameter becomes a slash and one expression, provided that its
constraint is read as one expression wherever it stands between parentheses.
-/

namespace RoutePlan.Pattern

open Regex Regex.Reading

/-- Between parentheses the constraint is read as one expression, of which the condition
holds. -/
def Embeds (inner : Expr → Prop) (constraint : List Char) : Prop :=
  ∀ (es : List (Expr × Nat)) (groups : Nat), ∃ e height groups',
    inner e ∧ height < nestLimit ∧
      Reads (flat es groups) ('(' :: constraint ++ [')']) (flat (es ++ [(e, height)]) groups')

namespace Segment

/-- The constraint of the segment, if it is a parameter, can stand in its source. -/
def Embedded (inner : Expr → Prop) : Segment → Prop
  | .fixed _ => True
  | .param _ constraint => Embeds inner (constraint.getD "[^/]+".toList)

/-- The expressions that a segment becomes. -/
def Denotes (inner : Expr → Prop) : Segment → List Expr → Prop
  | .fixed text, es => es = ('/' :: text).map Expr.literal
  | .param _ _, es => ∃ e, inner e ∧ es = [Expr.literal '/', e]

end Segment

/-- What related items say of one another holds of all items on the right. -/
theorem forall_mem_of_forall₂ {α β : Type} {R : α → β → Prop} {P : β → Prop} {as : List α}
    {bs : List β} (h : ∀ a ∈ as, ∀ b, R a b → P b) (hR : List.Forall₂ R as bs) :
    ∀ b ∈ bs, P b := by
  induction hR with
  | nil => exact fun b hb => absurd hb List.not_mem_nil
  | cons hab _ ih =>
    obtain ⟨ha, has⟩ := List.forall_mem_cons.mp h
    exact List.forall_mem_cons.mpr ⟨ha _ hab, ih has⟩

variable {inner : Expr → Prop}

theorem reads_slash (es : List (Expr × Nat)) (groups : Nat) :
    Reads (flat es groups) ['/'] (flat (es ++ [(Expr.literal '/', 0)]) groups) :=
  reads_literal es groups (by decide)

/-- A segment that stands for itself is read as a literal text. -/
theorem reads_fixed {text : List Char} (hne : text ≠ []) (es : List (Expr × Nat)) (groups : Nat) :
    Reads (flat es groups) (Segment.source (.fixed text))
      (flat (es ++ ('/' :: text).map fun c => (Expr.literal c, 0)) groups) := by
  have hsource : Segment.source (.fixed text) = ['/'] ++ quote text := by
    cases text with
    | nil => exact absurd rfl hne
    | cons c text => rfl
  have hquote := reads_quote (es ++ [(Expr.literal '/', 0)]) groups text
  rw [hsource, List.map_cons, List.append_cons]
  exact (reads_slash es groups).append hquote

theorem reads_segment {s : Segment} (hs : s.Embedded inner) (hne : s.written ≠ [])
    (es : List (Expr × Nat)) (groups : Nat) :
    ∃ (fs : List (Expr × Nat)) (groups' : Nat),
      s.Denotes inner (fs.map (·.1)) ∧ (∀ f ∈ fs, f.2 < nestLimit) ∧
        Reads (flat es groups) s.source (flat (es ++ fs) groups') := by
  cases s with
  | fixed text =>
    refine ⟨('/' :: text).map fun c => (Expr.literal c, 0), groups, ?_, ?_,
      reads_fixed hne es groups⟩
    · simp [Segment.Denotes, Function.comp_def]
    · intro f hf
      obtain ⟨_, -, rfl⟩ := List.mem_map.mp hf
      exact Nat.succ_pos _
  | param name constraint =>
    obtain ⟨e, height, groups', he, hheight, hreads⟩ := hs (es ++ [(Expr.literal '/', 0)]) groups
    refine ⟨[(Expr.literal '/', 0), (e, height)], groups', ⟨e, he, rfl⟩, ?_, ?_⟩
    · intro f hf
      rcases List.mem_pair.mp hf with rfl | rfl
      · exact Nat.succ_pos _
      · exact hheight
    · rw [List.append_cons]
      exact (reads_slash es groups).append hreads

theorem reads_segments {ss : List Segment} (hs : ∀ s ∈ ss, s.Embedded inner)
    (hne : ∀ s ∈ ss, s.written ≠ []) (es : List (Expr × Nat)) (groups : Nat) :
    ∃ (parts : List (List Expr)) (fs : List (Expr × Nat)) (groups' : Nat),
      List.Forall₂ (Segment.Denotes inner) ss parts ∧ fs.map (·.1) = parts.flatten ∧
        (∀ f ∈ fs, f.2 < nestLimit) ∧
          Reads (flat es groups) (ss.flatMap Segment.source) (flat (es ++ fs) groups') := by
  induction ss generalizing es groups with
  | nil =>
    refine ⟨[], [], groups, .nil, rfl, fun f hf => absurd hf List.not_mem_nil, ?_⟩
    rw [List.append_nil]
    exact Reads.nil _
  | cons s ss ih =>
    rw [List.forall_mem_cons] at hs hne
    obtain ⟨fs, groups', hdenotes, hheights, hreads⟩ := reads_segment hs.1 hne.1 es groups
    obtain ⟨parts, gs, groups'', hparts, hexprs, hheights', hreads'⟩ :=
      ih hs.2 hne.2 (es ++ fs) groups'
    refine ⟨fs.map (·.1) :: parts, fs ++ gs, groups'', .cons hdenotes hparts, ?_, ?_, ?_⟩
    · rw [List.map_append, hexprs, List.flatten_cons]
    · exact List.forall_mem_append.mpr ⟨hheights, hheights'⟩
    · rw [List.flatMap_cons, ← List.append_assoc]
      exact hreads.append hreads'

/-- What the segments are read as behind the first anchor stands between the anchors. -/
theorem ofSource?_of_reads {ss : List Segment} (hlegible : ∀ s ∈ ss, s.Legible)
    (hne : ∀ s ∈ ss, s.written ≠ []) {fs : List (Expr × Nat)} {groups : Nat}
    (hheights : ∀ f ∈ fs, f.2 < nestLimit)
    (hreads : Reads (flat [(.look .textStart, 0)] 0) (ss.flatMap Segment.source)
      (flat ([(.look .textStart, 0)] ++ fs) groups)) :
    Regex.ofSource? (source (String.ofList (written ss))) =
      some ⟨source (String.ofList (written ss)),
        Expr.seqAll (.look .textStart :: fs.map (·.1) ++ [.look .textEnd])⟩ := by
  have hbound : ∀ f ∈ (.look .textStart, 0) :: fs ++ [(.look .textEnd, 0)], f.2 < nestLimit := by
    simp only [List.cons_append, List.mem_cons, List.mem_append, List.not_mem_nil, or_false]
    rintro f (rfl | hf | rfl)
    · exact Nat.succ_pos _
    · exact hheights f hf
    · exact Nat.succ_pos _
  have hread := read?_of_reads (reads_anchors _ hreads) hbound
  rw [Regex.ofSource?, source_written hlegible hne, String.toList_ofList, hread, Option.map_some]
  simp

/-- The expression of a pattern written from legible segments is that of the segments between
the anchors of the text. -/
theorem ofSource?_written {ss : List Segment} (hlegible : ∀ s ∈ ss, s.Legible)
    (hne : ∀ s ∈ ss, s.written ≠ []) (hs : ∀ s ∈ ss, s.Embedded inner) :
    ∃ parts : List (List Expr), List.Forall₂ (Segment.Denotes inner) ss parts ∧
      Regex.ofSource? (source (String.ofList (written ss))) =
        some ⟨source (String.ofList (written ss)),
          Expr.seqAll (.look .textStart :: parts.flatten ++ [.look .textEnd])⟩ := by
  obtain ⟨parts, fs, groups', hparts, hexprs, hheights, hreads⟩ :=
    reads_segments hs hne [(.look .textStart, 0)] 0
  refine ⟨parts, hparts, ?_⟩
  rw [← hexprs]
  exact ofSource?_of_reads hlegible hne hheights hreads

theorem regex?_of_fits {pattern : String} {re : Regex}
    (h : Regex.ofSource? (source pattern) = some re) (hfits : re.expr.fits = true) :
    regex? pattern = some re := by
  rw [regex?, Regex.compile?, h, Option.filter_some, if_pos hfits]

/-- What is compiled was read, from the text that it keeps. -/
theorem ofSource?_of_regex? {pattern : String} {re : Regex} (h : regex? pattern = some re) :
    Regex.ofSource? (source pattern) = some re ∧ re.source = source pattern := by
  have hre : Regex.ofSource? (source pattern) = some re := Option.eq_some_of_filter_eq_some h
  obtain ⟨e, -, rfl⟩ := Option.map_eq_some_iff.mp hre
  exact ⟨hre, rfl⟩

/-- What is compiled at all is compiled to what was read. -/
theorem regex?_of_isSome {pattern : String} {re : Regex}
    (h : Regex.ofSource? (source pattern) = some re) (hsome : (regex? pattern).isSome) :
    regex? pattern = some re := by
  obtain ⟨re', hre'⟩ := Option.isSome_iff_exists.mp hsome
  rwa [Option.some.inj ((ofSource?_of_regex? hre').1.symm.trans h)] at hre'

/-! ## The default constraint -/

/-- One decimal digit or more, as a numbered group. -/
def IsDigits (e : Expr) : Prop :=
  ∃ index, e = .group index (.loop (.chars Text.isDecimalDigit) 1 none true)

/-- A piece that makes one set, and a plus sign behind it, are a numbered group between
parentheses. -/
theorem reads_plus {set : Text.CharSet} {height : Nat} {text : List Char}
    (hhead : (text ++ ['+']).head? ≠ some '?') (es : List (Expr × Nat)) (groups : Nat)
    (h : Reads ((flat es groups).openGroup (some (groups + 1)) {}) text
      (((flat es groups).openGroup (some (groups + 1)) {}).push (.chars set) height)) :
    Reads (flat es groups) ('(' :: (text ++ ['+']) ++ [')'])
      (flat (es ++ [(.group (groups + 1) (.loop (.chars set) 1 none true), height + 2)])
        (groups + 1)) := by
  let opened := (flat es groups).openGroup (some (groups + 1)) {}
  obtain ⟨read, hread⟩ : ∃ read, (opened.push (.chars set) height).repeat? 1 none false =
    some read := ⟨_, rfl⟩
  have hrepeat : ReadsInside (opened.push (.chars set) height) ['+'] read :=
    ReadsInside.piece rfl fun tail => by simp [readPiece, readLazy, hread]
  refine ReadsInside.group rfl hhead (h.appendInside hrepeat) ?_
  cases hread
  rw [← push_flat]
  rfl

theorem reads_digits (es : List (Expr × Nat)) (groups : Nat) :
    Reads (flat es groups) ('(' :: "\\d+".toList ++ [')'])
      (flat (es ++ [(.group (groups + 1) (.loop (.chars Text.isDecimalDigit) 1 none true), 2)])
        (groups + 1)) :=
  reads_plus (show ("\\d".toList ++ ['+']).head? ≠ some '?' by decide) es groups
    (Reads.piece rfl fun _ => rfl)

/-- Without a constraint a parameter takes what is no slash. -/
theorem reads_unconstrained (es : List (Expr × Nat)) (groups : Nat) :
    Reads (flat es groups) ('(' :: "[^/]+".toList ++ [')'])
      (flat (es ++ [(.group (groups + 1) (.loop (.chars fun c => c != '/') 1 none true), 3)])
        (groups + 1)) := by
  have hset : (Text.CharSet.empty.union (.single '/')).compl = fun c => c != '/' := by
    funext c
    simp [Text.CharSet.compl, Text.CharSet.union, Text.CharSet.empty, Text.CharSet.single, bne]
  rw [← hset]
  exact reads_plus (show ("[^/]".toList ++ ['+']).head? ≠ some '?' by decide) es groups
    (Reads.piece rfl fun _ => rfl)

theorem not_mem_slash_of_digits {taken : List Char}
    (h : ∀ c ∈ taken, Text.isDecimalDigit c = true) : '/' ∉ taken := by
  intro hm
  have hslash := h '/' hm
  rw [Text.isDecimalDigit_slash] at hslash
  cases hslash

theorem embeds_digits : Embeds IsDigits "\\d+".toList := fun es groups =>
  ⟨_, 2, groups + 1, ⟨groups + 1, rfl⟩, by decide, reads_digits es groups⟩

end RoutePlan.Pattern
