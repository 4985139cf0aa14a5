import RoutePlan.Proofs.Pattern.Pieces
import RoutePlan.Proofs.Pattern.Source

/-! # Patterns in braces

The expression of a pattern and the pattern in braces are made from one reading of its segments.
In braces every segment keeps its place: a parameter is shown by its name, and whatever is no
parameter is left alone, so that the names in braces are those of the expression.
-/

namespace RoutePlan.Pattern

namespace Segment

/-- A parameter as it can be told from its text, or a text that is not the text of one. -/
def IsRead : Segment → Prop
  | .fixed text => ∀ s : Segment, s.IsParam → s.written ≠ text
  | .param name constraint => IsParam (.param name constraint)

variable {s : Segment}

theorem written_read (text : List Char) : (read text).written = text := by
  rcases read_cases text with h | ⟨-, h⟩
  · rw [h]
    rfl
  · exact h

theorem isRead_read (text : List Char) : (read text).IsRead := by
  rcases read_cases text with h | ⟨h, -⟩
  · rw [h]
    exact read_eq_fixed_iff.mp h
  · cases hread : read text with
    | fixed text => rw [hread] at h; exact h.elim
    | param name constraint => rwa [hread] at h

/-- Braces are put around parameters only. -/
theorem IsRead.openapi_ne_written_iff (h : s.IsRead) : s.openapi ≠ s.written ↔ s.IsParam := by
  cases s with
  | fixed text => simp [openapi, written, IsParam]
  | param name constraint =>
    have hne : openapi (.param name constraint) ≠ written (.param name constraint) := by
      cases constraint <;> simp [openapi, written]
    exact ⟨fun _ => h, fun _ => hne⟩

theorem IsRead.not_mem_slash (h : s.IsRead) (hs : '/' ∉ s.written) : '/' ∉ s.openapi := by
  cases s with
  | fixed text => exact hs
  | param name constraint =>
    have hname := not_mem_ident_slash h.1
    simp [openapi, hname]

/-- What is in braces is no parameter any more. -/
theorem IsRead.read_openapi (h : s.IsRead) : read s.openapi = .fixed s.openapi := by
  cases s with
  | fixed text => exact read_eq_fixed_iff.mpr h
  | param name constraint => exact read_of_head?_ne (by simp [openapi])

end Segment

/-! ## Whole patterns -/

theorem map_written_segments (p : String) :
    (segments p).map Segment.written = pieces p.toList := by
  rw [segments, List.map_map]
  exact (List.map_congr_left fun t _ => Segment.written_read t).trans (List.map_id _)

theorem isRead_of_mem_segments {p : String} : ∀ s ∈ segments p, s.IsRead :=
  List.forall_mem_map.mpr fun t _ => Segment.isRead_read t

theorem pieces_openapi (p : String) :
    pieces (openapi p).toList = (segments p).map Segment.openapi := by
  rw [openapi, String.toList_ofList]
  refine pieces_intercalate ?_ (List.forall_mem_map.mpr fun s hs => ?_)
  · simpa [segments] using pieces_ne_nil p.toList
  · have hpiece : s.written ∈ pieces p.toList := by
      rw [← map_written_segments]
      exact List.mem_map_of_mem hs
    exact (isRead_of_mem_segments s hs).not_mem_slash (not_mem_slash_of_pieces _ _ hpiece)

theorem segments_openapi (p : String) :
    segments (openapi p) = (segments p).map fun s => .fixed s.openapi := by
  rw [segments, pieces_openapi, List.map_map]
  exact List.map_congr_left fun s hs => (isRead_of_mem_segments s hs).read_openapi

theorem openapi_openapi (p : String) : openapi (openapi p) = openapi p := by
  rw [openapi, segments_openapi, List.map_map]
  rfl

/-- The segments in which the two texts differ are the parameters, shown by their names. -/
theorem differing_eq {ss : List Segment} (h : ∀ s ∈ ss, s.IsRead) :
    (((ss.map Segment.written).zip (ss.map Segment.openapi)).filter fun q => q.1 ≠ q.2).map
        Prod.snd =
      (ss.filterMap fun s => s.name?.map String.ofList).map fun name =>
        '\x7b' :: name.toList ++ ['\x7d'] := by
  induction ss with
  | nil => rfl
  | cons s ss ih =>
    rw [List.forall_mem_cons] at h
    rw [List.map_cons, List.map_cons, List.zip_cons_cons, List.filter_cons]
    cases s with
    | fixed text => simpa [Segment.written, Segment.openapi, Segment.name?] using ih h.2
    | param name constraint =>
      have hne := (h.1.openapi_ne_written_iff.mpr h.1).symm
      rw [if_pos (by simpa using hne), List.map_cons, ih h.2]
      simp [Segment.openapi, Segment.name?]

/-- The expression of a pattern is written from its pieces, each of them read as a parameter if it
is the text of one and else as itself, and a pattern that compiles keeps that expression. In braces
the pattern has as many pieces; they differ from its own exactly where there is a parameter; and
there they show, in braces and in order, the parameters of the expression. A pattern in braces
stays as it is. -/
theorem openapi_agrees (p : String) :
    (∃ ss : List Segment, (∀ s ∈ ss, s.IsRead) ∧
      source p = (if p = "/" then "^/$"
        else String.ofList ('^' :: ss.flatMap Segment.source ++ ['$'])) ∧
      (∀ re, regex? p = some re → re.source = source p) ∧
      let before := pieces p.toList
      let after := pieces (openapi p).toList
      ss.map Segment.written = before ∧ after.length = before.length ∧
      (∀ i : Nat, after[i]? ≠ before[i]? ↔ ∃ s, ss[i]? = some s ∧ s.IsParam) ∧
      ((before.zip after).filter fun q => q.1 ≠ q.2).map Prod.snd =
        (params p).map fun name => '\x7b' :: name.toList ++ ['\x7d']) ∧
      openapi (openapi p) = openapi p := by
  refine ⟨⟨segments p, isRead_of_mem_segments, rfl, fun re hre => (ofSource?_of_regex? hre).2, ?_⟩,
    openapi_openapi p⟩
  intro before after
  have hbefore : before = (segments p).map Segment.written := (map_written_segments p).symm
  have hafter : after = (segments p).map Segment.openapi := pieces_openapi p
  refine ⟨hbefore.symm, ?_, fun i => ?_, ?_⟩
  · rw [hbefore, hafter, List.length_map, List.length_map]
  · rw [hbefore, hafter, List.getElem?_map, List.getElem?_map]
    cases hs : (segments p)[i]? with
    | none => simp
    | some s =>
      have hiff := (isRead_of_mem_segments s (List.mem_of_getElem? hs)).openapi_ne_written_iff
      simpa using hiff
  · rw [hbefore, hafter]
    exact differing_eq isRead_of_mem_segments

/-- The parentheses of neither constraint are balanced, but those of the expression are. -/
theorem openapi_agrees_tangled :
    let p := "//:id((b)/:c(d))/:1x"
    (regex? p).map Regex.source = some "^/((b)/(d))/:1x$" ∧
      (((pieces p.toList).zip (pieces (openapi p).toList)).filter fun q => q.1 ≠ q.2).map
        Prod.snd = ["\x7bid\x7d".toList, "\x7bc\x7d".toList] := by
  intro p
  obtain ⟨⟨_, -, -, hcompiled, -, -, -, hnames⟩, -⟩ := openapi_agrees p
  obtain ⟨re, hre⟩ : ∃ re, regex? p = some re := Option.isSome_iff_exists.mp (by decide +kernel)
  refine ⟨?_, hnames.trans (by decide)⟩
  rw [hre, Option.map_some, hcompiled re hre]
  exact congrArg some (by decide)

end RoutePlan.Pattern
