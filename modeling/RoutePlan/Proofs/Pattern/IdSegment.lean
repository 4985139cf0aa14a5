import RoutePlan.Proofs.Definition.Address
import RoutePlan.Proofs.Pattern.Pieces

/-! # Segments behind a pattern

What is written from legible segments can be put behind any pattern: the slash in front of it ends
the last piece of the pattern, and from there on the segments are read back. So the two forms of
the longer pattern begin with those of the shorter one, and the constraint of a generated id
segment is taken over as it stands, with whatever parentheses it holds.
-/

namespace RoutePlan.Pattern

variable {p : String} {ss : List Segment}

/-- The slash in front of each segment ends the piece before it. -/
theorem pieces_append_segments (s : List Char) (h : ∀ t ∈ ss, '/' ∉ t.written) :
    pieces (s ++ written ss) = pieces s ++ ss.map Segment.written := by
  cases ss with
  | nil => simp
  | cons t ss =>
    obtain ⟨ht, hss⟩ := List.forall_mem_cons.mp h
    rw [written_cons, pieces_append_slash, pieces_append_written ht hss, List.map_cons]

theorem segments_append (p : String) (h : ∀ s ∈ ss, s.Legible) :
    segments (p ++ String.ofList (written ss)) = segments p ++ ss := by
  have hpieces := pieces_append_segments p.toList fun s hs => (h s hs).1
  rw [segments, String.toList_append, String.toList_ofList, hpieces, List.map_append,
    map_read_written h]
  rfl

theorem params_append (p : String) (h : ∀ s ∈ ss, s.Legible) :
    params (p ++ String.ofList (written ss)) =
      params p ++ ss.filterMap fun s => s.name?.map String.ofList := by
  rw [params, segments_append p h, List.filterMap_append]
  rfl

theorem intercalate_append {ts : List (List Char)} (hne : ts ≠ []) (us : List (List Char)) :
    List.intercalate ['/'] (ts ++ us) = List.intercalate ['/'] ts ++ us.flatMap ('/' :: ·) := by
  cases ts with
  | nil => exact absurd rfl hne
  | cons t ts =>
    rw [List.cons_append, intercalate_cons, intercalate_cons, List.flatMap_append,
      List.append_assoc]

theorem openapi_append (p : String) (h : ∀ s ∈ ss, s.Legible) :
    openapi (p ++ String.ofList (written ss)) =
      openapi p ++ String.ofList (ss.flatMap fun s => '/' :: s.openapi) := by
  have hne : (segments p).map Segment.openapi ≠ [] := by
    simpa [segments] using pieces_ne_nil p.toList
  rw [openapi, segments_append p h, List.map_append, intercalate_append hne, List.flatMap_map,
    String.ofList_append]
  rfl

/-- The expression up to its last anchor. -/
def opening (p : String) : String := String.ofList ('^' :: (segments p).flatMap Segment.source)

theorem source_of_ne_root (hp : p ≠ "/") : source p = opening p ++ "$" := by
  rw [source, if_neg hp, String.ofList_append]
  rfl

theorem opening_append (p : String) (h : ∀ s ∈ ss, s.Legible) :
    opening (p ++ String.ofList (written ss)) =
      opening p ++ String.ofList (ss.flatMap Segment.source) := by
  rw [opening, segments_append p h, List.flatMap_append, ← List.cons_append, String.ofList_append]
  rfl

/-! ## Id segments -/

theorem append_idSegment_ne_root (settings : Settings) (name p : String) :
    p ++ settings.idSegment name ≠ "/" := by
  intro h
  have hlength := congrArg String.length h
  simp only [Settings.idSegment, String.length_append] at hlength
  have hparen : "/:".length = 2 ∧ "/".length = 1 := by decide
  omega

/-- Behind a pattern of any kind the segment of an identifier is read back, provided that its
constraint is not empty and keeps to its segment and its line. In braces it shows the identifier,
which becomes the last parameter, and in the expression its constraint comes between parentheses
before the last anchor. Only the root path has no such place in its expression. -/
theorem idSegment_read_back {settings : Settings} {name : String} (hname : IsIdent name.toList)
    (hne : settings.idConstraint ≠ "")
    (hinside : ∀ c ∈ settings.idConstraint.toList, c ≠ '/' ∧ c ≠ '\n') (p : String) :
    let longer := p ++ settings.idSegment name
    openapi longer = openapi p ++ "/\x7b" ++ name ++ "\x7d" ∧
      params longer = params p ++ [name] ∧
      (p ≠ "/" → ∃ before, source p = before ++ "$" ∧
        source longer = before ++ "/(" ++ settings.idConstraint ++ ")$") := by
  intro longer
  have hlegible : ∀ s ∈ [settings.idPart name], s.Legible := by
    rw [List.forall_mem_singleton]
    apply Segment.legible_constrained hname
    · exact fun h => hne (String.toList_eq_nil_iff.mp h)
    · exact fun h => (hinside '/' h).1 rfl
    · exact fun h => (hinside '\n' h).2 rfl
  have hlonger : longer = p ++ String.ofList (written [settings.idPart name]) :=
    congrArg (p ++ ·) (settings.idSegment_eq name)
  refine ⟨?openapi, ?params, fun hp => ⟨opening p, source_of_ne_root hp, ?source⟩⟩
  case openapi =>
    rw [hlonger, openapi_append p hlegible]
    apply String.toList_injective
    simp [Settings.idPart, Segment.openapi]
  case params =>
    rw [hlonger, params_append p hlegible]
    simp [Settings.idPart, Segment.name?]
  case source =>
    rw [source_of_ne_root (append_idSegment_ne_root settings name p), settings.idSegment_eq,
      opening_append p hlegible]
    apply String.toList_injective
    simp [Settings.idPart, Segment.source]

/-- Here the constraint closes a group before it opens one, behind a pattern that has a parameter,
an empty piece and a piece that only begins like a parameter. -/
theorem idSegment_read_back_unbalanced :
    let longer := "/:a(x)//:(" ++ Settings.idSegment ⟨")("⟩ "post_id"
    longer = "/:a(x)//:(/:post_id()()" ∧
      openapi longer = "/\x7ba\x7d//:(/\x7bpost_id\x7d" ∧ params longer = ["a", "post_id"] ∧
      source longer = "^/(x)/:\\(/()()$" := by
  intro longer
  obtain ⟨hopenapi, hparams, hsource⟩ :=
    @idSegment_read_back ⟨")("⟩ "post_id" (by decide) (by decide) (by simp) "/:a(x)//:("
  have hshorter : openapi "/:a(x)//:(" = "/\x7ba\x7d//:(" ∧ params "/:a(x)//:(" = ["a"] ∧
      source "/:a(x)//:(" = "^/(x)/:\\($" := by decide
  obtain ⟨before, hbefore, hsource⟩ := hsource (by decide)
  have hopening : before = "^/(x)/:\\(" := by
    have hchars : before.toList ++ ['$'] = "^/(x)/:\\(".toList ++ ['$'] := by
      simpa [hshorter.2.2] using (congrArg String.toList hbefore).symm
    exact String.toList_injective (List.append_cancel_right hchars)
  refine ⟨by decide, hopenapi.trans ?_, hparams.trans ?_, hsource.trans ?_⟩
  · rw [hshorter.1]
    rfl
  · rw [hshorter.2.1]
    rfl
  · rw [hopening]
    rfl

end RoutePlan.Pattern
