import Mathlib.Data.List.Basic
import RoutePlan.Pattern

/-! # Written segments

A segment can be written as well as read, and a pattern is written by putting each of its
segments behind a slash. A legible segment is one that reading gives back; a pattern written
from legible segments is read as these segments, and its parameters, its form in braces and its
expression can be told from them.
-/

namespace RoutePlan.Pattern

/-- The name of a parameter: a letter or an underscore of ASCII, then letters, digits and
underscores. -/
def IsIdent : List Char → Prop
  | [] => False
  | c :: rest => isIdentStart c ∧ ∀ d ∈ rest, isIdentPart d

instance : DecidablePred IsIdent
  | [] => inferInstanceAs (Decidable False)
  | c :: rest => decidable_of_iff (isIdentStart c ∧ rest.all isIdentPart) (by simp [IsIdent])

namespace Segment

def written : Segment → List Char
  | .fixed text => text
  | .param name none => ':' :: name
  | .param name (some inside) => ':' :: name ++ '(' :: inside ++ [')']

/-- Reading gives the segment back, and no slash in it breaks it apart. -/
def Legible (s : Segment) : Prop := '/' ∉ s.written ∧ read s.written = s

end Segment

/-- Each segment behind a slash. -/
def written (ss : List Segment) : List Char := ss.flatMap fun s => '/' :: s.written

@[simp] theorem written_nil : written [] = [] := rfl

theorem written_append (ss ts : List Segment) : written (ss ++ ts) = written ss ++ written ts :=
  List.flatMap_append

theorem written_cons (s : Segment) (ss : List Segment) :
    written (s :: ss) = '/' :: (s.written ++ written ss) :=
  List.flatMap_cons

/-! ## Identifiers -/

theorem isIdentPart_of_isIdentStart {c : Char} (h : isIdentStart c) : isIdentPart c := by
  simp only [isIdentStart, isIdentPart, Char.isAlphanum, Bool.or_eq_true] at h ⊢
  exact h.imp_left .inl

theorem IsIdent.all {name : List Char} (h : IsIdent name) : ∀ c ∈ name, isIdentPart c := by
  cases name with
  | nil => exact h.elim
  | cons c rest => exact List.forall_mem_cons.mpr ⟨isIdentPart_of_isIdentStart h.1, h.2⟩

/-- A character that is no part of an identifier does not stand in one. -/
theorem IsIdent.not_mem {name : List Char} (h : IsIdent name) {c : Char}
    (hc : isIdentPart c = false) : c ∉ name := by
  intro hm
  have hpart := h.all c hm
  simp [hc] at hpart

theorem isIdent_append_iff {name more : List Char} (hname : name ≠ []) :
    IsIdent (name ++ more) ↔ IsIdent name ∧ ∀ d ∈ more, isIdentPart d := by
  cases name with
  | nil => exact absurd rfl hname
  | cons c rest => simp only [List.cons_append, IsIdent, List.forall_mem_append, and_assoc]

/-! ## Reading a segment -/

namespace Segment

theorem read_of_head?_ne {text : List Char} (h : text.head? ≠ some ':') :
    read text = .fixed text := by
  unfold read
  split
  · exact absurd rfl h
  · rfl

theorem takeWhile_ident {name after : List Char} (h : ∀ c ∈ name, isIdentPart c)
    (ha : after.takeWhile isIdentPart = []) : (name ++ after).takeWhile isIdentPart = name := by
  rw [List.takeWhile_append_of_pos h, ha, List.append_nil]

theorem dropWhile_ident {name after : List Char} (h : ∀ c ∈ name, isIdentPart c)
    (ha : after.dropWhile isIdentPart = after) :
    (name ++ after).dropWhile isIdentPart = after := by
  rw [List.dropWhile_append_of_pos h, ha]

theorem constraint?_eq {inside : List Char} (hne : inside ≠ []) (hline : '\n' ∉ inside) :
    constraint? ('(' :: inside ++ [')']) = some inside := by
  simp [constraint?, hne, hline]

theorem constraint?_eq_some {after inside : List Char} (h : constraint? after = some inside) :
    after = '(' :: inside ++ [')'] ∧ inside ≠ [] ∧ '\n' ∉ inside := by
  unfold constraint? at h
  split at h
  · rename_i rest
    simp only [Option.ite_none_right_eq_some, Option.some.injEq] at h
    obtain ⟨⟨hlast, hne, hline⟩, rfl⟩ := h
    refine ⟨?_, hne, hline⟩
    rw [List.cons_append, List.dropLast_append_getLast? _ hlast]
  · cases h

/-- A parameter as it can be told from its text: its name is an identifier, and what stands in its
parentheses is not empty and keeps to one line. -/
def IsParam : Segment → Prop
  | .fixed _ => False
  | .param name constraint =>
    IsIdent name ∧ ∀ inside ∈ constraint, inside ≠ [] ∧ '\n' ∉ inside

theorem IsParam.read_written {s : Segment} (h : s.IsParam) : read s.written = s := by
  obtain text | ⟨_ | ⟨c, rest⟩, constraint⟩ := s
  · exact h.elim
  · exact h.1.elim
  · obtain ⟨⟨hc, hrest⟩, hconstraint⟩ := h
    cases constraint with
    | none =>
      have htake := takeWhile_ident hrest (List.takeWhile_nil (p := isIdentPart))
      have hdrop := dropWhile_ident hrest (List.dropWhile_nil (p := isIdentPart))
      rw [List.append_nil] at htake hdrop
      simp only [written, read, hc, if_true, htake, hdrop]
    | some inside =>
      obtain ⟨hne, hline⟩ := hconstraint inside rfl
      have hopen : ¬isIdentPart '(' = true := by decide
      have htake := takeWhile_ident hrest (List.takeWhile_cons_of_neg (l := inside ++ [')']) hopen)
      have hdrop := dropWhile_ident hrest (List.dropWhile_cons_of_neg (l := inside ++ [')']) hopen)
      have hread := constraint?_eq hne hline
      simp only [List.cons_append, List.append_assoc, written] at hread ⊢
      simp only [read, hc, if_true, htake, hdrop, hread]

/-- Whatever is not the text of a parameter stands for itself. -/
theorem read_cases (text : List Char) :
    read text = .fixed text ∨ (read text).IsParam ∧ (read text).written = text := by
  unfold read
  split
  · rename_i c rest
    split
    · rename_i hstart
      have hident : IsIdent (c :: rest.takeWhile isIdentPart) :=
        ⟨hstart, List.all_eq_true.mp List.all_takeWhile⟩
      have hsplit := List.takeWhile_append_dropWhile (p := isIdentPart) (l := rest)
      split
      · rename_i hafter
        rw [hafter, List.append_nil] at hsplit
        exact .inr ⟨⟨hident, fun inside hi => by cases hi⟩, by simp [written, hsplit]⟩
      · split
        · rename_i inside hinside
          obtain ⟨hafter, hne, hline⟩ := constraint?_eq_some hinside
          refine .inr ⟨⟨hident, fun _ hi => by cases hi; exact ⟨hne, hline⟩⟩, ?_⟩
          rw [hafter] at hsplit
          simpa [written] using hsplit
        · exact .inl rfl
    · exact .inl rfl
  · exact .inl rfl

theorem read_eq_fixed_iff {text : List Char} :
    read text = .fixed text ↔ ∀ s : Segment, s.IsParam → s.written ≠ text := by
  constructor
  · rintro h s hs rfl
    rw [hs.read_written] at h
    rw [h] at hs
    exact hs
  · exact fun h => (read_cases text).resolve_right fun hparam => h _ hparam.1 hparam.2

/-- Whatever is read as a parameter has an identifier for its name. -/
theorem isIdent_of_read {text name : List Char} {constraint : Option (List Char)}
    (h : read text = .param name constraint) : IsIdent name := by
  rcases read_cases text with hfixed | ⟨hparam, -⟩
  · rw [hfixed] at h
    cases h
  · rw [h] at hparam
    exact hparam.1

theorem legible_fixed {text : List Char} (hslash : '/' ∉ text) (hcolon : text.head? ≠ some ':') :
    Legible (.fixed text) :=
  ⟨hslash, read_of_head?_ne hcolon⟩

theorem not_mem_ident_slash {name : List Char} (h : IsIdent name) : '/' ∉ name :=
  h.not_mem (by decide)

theorem legible_constrained {name inside : List Char} (h : IsIdent name) (hne : inside ≠ [])
    (hslash : '/' ∉ inside) (hline : '\n' ∉ inside) : Legible (.param name (some inside)) := by
  have hparam : IsParam (.param name (some inside)) :=
    ⟨h, fun _ hi => by cases hi; exact ⟨hne, hline⟩⟩
  refine ⟨?_, hparam.read_written⟩
  simp [written, not_mem_ident_slash h, hslash]

end Segment

/-! ## Reading a pattern -/

/-- The first piece of a pattern goes up to its first slash. -/
theorem pieces_append_written {p : List Char} (hp : '/' ∉ p) {ss : List Segment}
    (h : ∀ s ∈ ss, '/' ∉ s.written) :
    pieces (p ++ written ss) = p :: ss.map Segment.written := by
  induction ss generalizing p with
  | nil =>
    rw [written, List.flatMap_nil, List.append_nil, List.map_nil]
    induction p with
    | nil => rfl
    | cons c p ih =>
      rw [List.mem_cons, not_or] at hp
      rw [pieces, if_neg (Ne.symm hp.1), ih hp.2]
  | cons s ss ih =>
    obtain ⟨hs, hss⟩ := List.forall_mem_cons.mp h
    rw [written_cons]
    induction p with
    | nil => rw [List.nil_append, pieces, if_pos rfl, ih hs hss, List.map_cons]
    | cons c p ihp =>
      rw [List.mem_cons, not_or] at hp
      rw [List.cons_append, pieces, if_neg (Ne.symm hp.1), ihp hp.2]

theorem pieces_written {ss : List Segment} (h : ∀ s ∈ ss, '/' ∉ s.written) :
    pieces (written ss) = [] :: ss.map Segment.written :=
  pieces_append_written List.not_mem_nil h

/-- Slashes keep the pieces apart that hold none. -/
theorem pieces_slashed {ts : List (List Char)} (h : ∀ t ∈ ts, '/' ∉ t) :
    pieces (ts.flatMap ('/' :: ·)) = [] :: ts := by
  have hwritten := @pieces_written (ts.map Segment.fixed) (List.forall_mem_map.mpr h)
  rw [List.map_map, written, List.flatMap_map] at hwritten
  exact hwritten.trans (congrArg _ (List.map_id ts))

theorem map_read_written {ss : List Segment} (h : ∀ s ∈ ss, s.Legible) :
    (ss.map Segment.written).map Segment.read = ss := by
  rw [List.map_map]
  exact (List.map_congr_left fun s hs => (h s hs).2).trans (List.map_id ss)

/-- What stands before the first slash is a segment of its own, which is empty. -/
theorem segments_written {ss : List Segment} (h : ∀ s ∈ ss, s.Legible) :
    segments (String.ofList (written ss)) = .fixed [] :: ss := by
  rw [segments, String.toList_ofList, pieces_written fun s hs => (h s hs).1, List.map_cons,
    map_read_written h, Segment.read_of_head?_ne (by simp)]

theorem params_written {ss : List Segment} (h : ∀ s ∈ ss, s.Legible) :
    params (String.ofList (written ss)) =
      ss.filterMap fun s => s.name?.map String.ofList := by
  rw [params, segments_written h]
  rfl

theorem intercalate_cons (t : List Char) (ts : List (List Char)) :
    List.intercalate ['/'] (t :: ts) = t ++ ts.flatMap ('/' :: ·) := by
  induction ts generalizing t with
  | nil => simp [List.intercalate]
  | cons u us ih =>
    rw [List.flatMap_cons, List.cons_append, ← ih u]
    simp [List.intercalate]

theorem openapi_written {ss : List Segment} (h : ∀ s ∈ ss, s.Legible) :
    openapi (String.ofList (written ss)) =
      String.ofList (ss.flatMap fun s => '/' :: s.openapi) := by
  rw [openapi, segments_written h, List.map_cons]
  exact congrArg String.ofList ((intercalate_cons _ _).trans (List.flatMap_map ..))

/-- The root path is no exception here, since it is no segment behind a slash. -/
theorem source_written {ss : List Segment} (h : ∀ s ∈ ss, s.Legible)
    (hne : ∀ s ∈ ss, s.written ≠ []) :
    source (String.ofList (written ss)) =
      String.ofList ('^' :: ss.flatMap Segment.source ++ ['$']) := by
  have hroot : String.ofList (written ss) ≠ "/" := by
    intro heq
    have hchars : written ss = ['/'] := by simpa using congrArg String.toList heq
    cases ss with
    | nil => cases hchars
    | cons s ss =>
      rw [written_cons, List.cons.injEq, List.append_eq_nil_iff] at hchars
      exact hne s List.mem_cons_self hchars.2.1
  rw [source, if_neg hroot, segments_written h]
  rfl

end RoutePlan.Pattern
