import Mathlib.Data.List.Forall2
import RoutePlan.RouteTable.Rendering

/-! # The table rendering

In a table for people every route has a line of its own, and all paths begin in one column. The
name of a method is a token, so the first blank of a line ends it; where paths and handlers hold
no blanks either, the next blank ends the path, and the text alone tells what was rendered.
-/

namespace RoutePlan

/-- The lines of a text; the empty text has none. -/
def textLines (text : String) : List (List Char) :=
  if text = "" then [] else text.toList.splitOn '\n'

theorem Method.not_mem_name {c : Char} (hc : isTokenChar c = false) (m : Method) :
    c ∉ m.name.toList := fun h => by
  have htoken := List.all_eq_true.mp m.isToken.2 c h
  rw [hc] at htoken
  cases htoken

namespace Row

variable {r : Row} {rows : List Row} {width : Nat}

/-- Neither the path nor the handler's name holds a space or a line feed. -/
def IsPlain (r : Row) : Prop :=
  ∀ c ∈ r.path.toList ++ r.dispatch.handlerName.toList, c ≠ ' ' ∧ c ≠ '\n'

/-- What a line shows: the method, the path and the handler's name. -/
def cells (r : Row) : String × String × String := (r.method.name, r.path, r.dispatch.handlerName)

/-! ## One line -/

/-- What stands before the path. -/
def head (width : Nat) (r : Row) : List Char := r.method.name.toList.rightpad width ' ' ++ [' ']

theorem toList_line (width : Nat) (r : Row) :
    (r.line width).toList = r.head width ++ (r.path.toList ++
      (" -> ".toList ++ r.dispatch.handlerName.toList)) := by
  simp [line, tail, head]

theorem length_head (h : r.method.name.length ≤ width) : (r.head width).length = width + 1 := by
  rw [head, List.length_append, List.length_rightpad, String.length_toList, Nat.max_eq_left h]
  rfl

theorem line_ne_nil (width : Nat) (r : Row) : (r.line width).toList ≠ [] := by
  rw [toList_line, head]
  simp

theorem lineFeed_not_mem_line (h : r.IsPlain) (width : Nat) : '\n' ∉ (r.line width).toList := by
  have hname := r.method.not_mem_name (c := '\n') (by decide)
  have hpath : '\n' ∉ r.path.toList := fun hmem => (h _ (List.mem_append_left _ hmem)).2 rfl
  have hhandler : '\n' ∉ r.dispatch.handlerName.toList :=
    fun hmem => (h _ (List.mem_append_right _ hmem)).2 rfl
  rw [toList_line, head, List.rightpad]
  simp [hname, hpath, hhandler]

theorem takeWhile_ne_blank {word rest : List Char} (h : ' ' ∉ word) :
    (word ++ ' ' :: rest).takeWhile (· != ' ') = word := by
  have hword : ∀ c ∈ word, (c != ' ') = true := fun c hc => by
    rw [bne_iff_ne]
    exact ne_of_mem_of_not_mem hc h
  rw [List.takeWhile_append_of_pos hword, List.takeWhile_cons_of_neg (by decide), List.append_nil]

theorem exists_toList_line (width : Nat) (r : Row) :
    ∃ rest, (r.line width).toList = r.method.name.toList ++ ' ' :: rest := by
  rw [toList_line, head, List.rightpad]
  cases width - r.method.name.toList.length with
  | zero =>
    simp only [List.replicate_zero, List.append_nil, List.append_assoc, List.singleton_append]
    exact ⟨_, rfl⟩
  | succ n =>
    simp only [List.replicate_succ, List.append_assoc, List.cons_append]
    exact ⟨_, rfl⟩

/-- The characters of a line, given how many of them the longest method has. -/
def readLine (width : Nat) (l : List Char) : String × String × String :=
  let behind := l.drop (width + 1)
  let path := behind.takeWhile (· != ' ')
  (String.ofList (l.takeWhile (· != ' ')), String.ofList path,
    String.ofList (behind.drop (path.length + " -> ".length)))

/-- Whatever fills the columns behind it, the method ends at the first blank. -/
theorem takeWhile_line (width : Nat) (r : Row) :
    (r.line width).toList.takeWhile (· != ' ') = r.method.name.toList := by
  obtain ⟨rest, hrest⟩ := exists_toList_line width r
  rw [hrest, takeWhile_ne_blank (r.method.not_mem_name (by decide))]

theorem readLine_line (h : r.IsPlain) (hwidth : r.method.name.length ≤ width) :
    readLine width (r.line width).toList = r.cells := by
  have hbehind : (r.line width).toList.drop (width + 1)
      = r.path.toList ++ ' ' :: ("-> ".toList ++ r.dispatch.handlerName.toList) := by
    rw [toList_line, List.drop_left' (length_head hwidth)]
    rfl
  have hpath : ' ' ∉ r.path.toList := fun hmem => (h _ (List.mem_append_left _ hmem)).1 rfl
  have hhandler : (r.path.toList ++ ' ' :: ("-> ".toList ++ r.dispatch.handlerName.toList)).drop
      (r.path.toList.length + " -> ".length) = r.dispatch.handlerName.toList := by
    rw [List.drop_length_add_append]
    rfl
  simp only [readLine, hbehind, takeWhile_ne_blank hpath, takeWhile_line, hhandler,
    String.ofList_toList, cells]

/-! ## All lines -/

theorem le_foldl_length (rows : List Row) (least : Nat) :
    least ≤ rows.foldl (fun width r => max width r.method.name.length) least ∧
    ∀ r ∈ rows, r.method.name.length
      ≤ rows.foldl (fun width r => max width r.method.name.length) least := by
  induction rows generalizing least with
  | nil => exact ⟨Nat.le_refl least, fun r hr => absurd hr List.not_mem_nil⟩
  | cons s rows ih =>
    obtain ⟨hleast, hrows⟩ := ih (max least s.method.name.length)
    refine ⟨Nat.le_trans (Nat.le_max_left _ _) hleast, fun r hr => ?_⟩
    rcases List.mem_cons.mp hr with rfl | hr
    · exact Nat.le_trans (Nat.le_max_right _ _) hleast
    · exact hrows r hr

theorem foldl_length_eq (rows : List Row) (least : Nat) :
    rows.foldl (fun width r => max width r.method.name.length) least = least ∨
    ∃ r ∈ rows, r.method.name.length
      = rows.foldl (fun width r => max width r.method.name.length) least := by
  induction rows generalizing least with
  | nil => exact .inl rfl
  | cons s rows ih =>
    rcases ih (max least s.method.name.length) with hleast | ⟨r, hr, hlength⟩
    · rcases Nat.le_total s.method.name.length least with hle | hle
      · exact .inl (hleast.trans (Nat.max_eq_left hle))
      · exact .inr ⟨s, List.mem_cons_self, (hleast.trans (Nat.max_eq_right hle)).symm⟩
    · exact .inr ⟨r, List.mem_cons_of_mem s hr, hlength⟩

theorem length_le_methodWidth (hr : r ∈ rows) : r.method.name.length ≤ methodWidth rows :=
  (le_foldl_length rows 0).2 r hr

theorem exists_length_eq_methodWidth (h : rows ≠ []) :
    ∃ r ∈ rows, r.method.name.length = methodWidth rows := by
  obtain ⟨r, hr⟩ := List.exists_mem_of_ne_nil rows h
  rcases foldl_length_eq rows 0 with hzero | hlongest
  · have hle := (le_foldl_length rows 0).2 r hr
    rw [hzero] at hle
    exact ⟨r, hr, (Nat.le_zero.mp hle).trans hzero.symm⟩
  · exact hlongest

/-- What a rendered table shows, told from its text. -/
def readTable (text : String) : List (String × String × String) :=
  let ls := textLines text
  let width := ls.foldl (fun width l => max width (l.takeWhile (· != ' ')).length) 0
  ls.map (readLine width)

theorem render_eq_empty : render rows .table = "" ↔ rows = [] := by
  refine ⟨fun h => ?_, fun h => by rw [h]; rfl⟩
  rw [render, lines] at h
  match rows with
  | [] => rfl
  | [r] =>
    rw [List.map_singleton, String.intercalate_singleton] at h
    exact absurd (congrArg String.toList h) (line_ne_nil _ r)
  | r :: s :: rest =>
    rw [List.map_cons, List.map_cons, String.intercalate_cons_cons] at h
    simp at h

theorem textLines_render (h : ∀ r ∈ rows, r.IsPlain) :
    textLines (render rows .table) = (lines rows).map String.toList := by
  by_cases hrows : rows = []
  · subst hrows
    rfl
  · have hlines : ∀ l ∈ (lines rows).map String.toList, '\n' ∉ l := by
      rw [lines, List.map_map]
      intro l hl
      obtain ⟨r, hr, rfl⟩ := List.mem_map.mp hl
      exact lineFeed_not_mem_line (h r hr) _
    rw [textLines, if_neg (mt render_eq_empty.mp hrows), render, String.toList_intercalate]
    exact List.splitOn_intercalate '\n' hlines (by simpa [lines] using hrows)

theorem readTable_render (h : ∀ r ∈ rows, r.IsPlain) :
    readTable (render rows .table) = rows.map cells := by
  have hwidth : ((lines rows).map String.toList).foldl
      (fun width l => max width (l.takeWhile (· != ' ')).length) 0 = methodWidth rows := by
    simp only [lines, List.foldl_map, takeWhile_line, String.length_toList, methodWidth]
  rw [readTable, textLines_render h, hwidth, lines, List.map_map, List.map_map]
  exact List.map_congr_left fun r hr => readLine_line (h r hr) (length_le_methodWidth hr)

/-- A table without spaces and line feeds in its paths and handlers has one line for each row, in
which the path begins right behind the longest method's column. Its text tells the method, path and
handler of every row, so that another such table with the same text has the same ones. -/
theorem table_rendering_readable (h : ∀ r ∈ rows, r.IsPlain) :
    (render rows .table = "" ↔ rows = []) ∧
    (∃ width, (∀ r ∈ rows, r.method.name.length ≤ width) ∧
      (rows ≠ [] → ∃ r ∈ rows, r.method.name.length = width) ∧
      List.Forall₂ (fun r l => ∃ before, before.length = width + 1 ∧
          l = before ++ (r.path.toList ++ (" -> ".toList ++ r.dispatch.handlerName.toList)))
        rows (textLines (render rows .table))) ∧
    readTable (render rows .table) = rows.map cells ∧
    ∀ rows' : List Row, (∀ r ∈ rows', r.IsPlain) → render rows' .table = render rows .table →
      rows'.map cells = rows.map cells := by
  refine ⟨render_eq_empty, ⟨methodWidth rows, fun r hr => length_le_methodWidth hr,
    exists_length_eq_methodWidth, ?_⟩, readTable_render h, fun rows' h' hsame => ?_⟩
  · rw [textLines_render h, lines, List.map_map, List.forall₂_map_right_iff, List.forall₂_same]
    exact fun r hr => ⟨r.head (methodWidth rows), length_head (length_le_methodWidth hr),
      toList_line _ r⟩
  · rw [← readTable_render h', hsame, readTable_render h]

/-- Arrows may stand in paths and handlers. -/
theorem table_rendering_readable_arrows :
    let rows : List Row :=
      [⟨Verb.token .get, "/->", "a->b#c", "a->b", "c", []⟩,
        ⟨Verb.token .delete, "/", "->#->", "->", "->", []⟩]
    (∀ r ∈ rows, r.IsPlain) ∧
    readTable "GET    /-> -> a->b#c\nDELETE / -> ->#->" = rows.map cells := by
  intro rows
  have h : ∀ r ∈ rows, r.IsPlain := by
    simp [rows, IsPlain, or_imp, forall_and]
  have htext : render rows .table = "GET    /-> -> a->b#c\nDELETE / -> ->#->" := by rfl
  exact ⟨h, htext ▸ (table_rendering_readable h).2.2.1⟩

end Row
end RoutePlan
