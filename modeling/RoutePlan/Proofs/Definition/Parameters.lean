import RoutePlan.Proofs.Definition.Chain

/-! # Parameters of nested routes

A nested resource is reached through the ids of the resources around it, each under the
parameter name of its resource. Any name that fills a segment can be such a parameter name, but
only an identifier is read back as one. So the ids of a nested route come back from its path
exactly where the parameter names around it are identifiers.
-/

namespace RoutePlan

open Pattern

/-- The path of one instance of the last resource of a chain. -/
def instancePath (settings : Settings) : List Link → Link → String
  | [], last => "/" ++ last.resource.name ++ settings.idSegment "id"
  | l :: enclosing, last =>
    "/" ++ l.resource.name ++ settings.idSegment (l.resource.param ++ "_id") ++
      instancePath settings enclosing last

/-- The same path with its parameters in braces. -/
def instanceTemplate : List Link → Link → String
  | [], last => "/" ++ last.resource.name ++ "/\x7bid\x7d"
  | l :: enclosing, last =>
    "/" ++ l.resource.name ++ "/\x7b" ++ l.resource.param ++ "_id\x7d" ++
      instanceTemplate enclosing last

variable {settings : Settings} {enclosing : List Link} {last : Link}

/-- The segments of the path of one instance. -/
def instanceSegments (settings : Settings) (enclosing : List Link) (last : Link) : List Segment :=
  passages settings enclosing ++ [.ofName last.resource.name, settings.idPart "id"]

theorem instancePath_eq (settings : Settings) (enclosing : List Link) (last : Link) :
    instancePath settings enclosing last =
      String.ofList (written (instanceSegments settings enclosing last)) := by
  induction enclosing with
  | nil =>
    apply String.toList_injective
    simp [instancePath, instanceSegments, passages, Settings.idSegment, written_ofName,
      written_idPart]
  | cons l enclosing ih =>
    apply String.toList_injective
    rw [instancePath, ih]
    simp [instanceSegments, passages, Settings.idSegment, ResourceSpec.passage, written_ofName,
      written_idPart]

theorem openapi_instanceSegments (enclosing : List Link) (last : Link) :
    String.ofList ((instanceSegments settings enclosing last).flatMap fun s => '/' :: s.openapi) =
      instanceTemplate enclosing last := by
  induction enclosing with
  | nil =>
    apply String.toList_injective
    simp [instanceTemplate, instanceSegments, passages, Segment.ofName, Settings.idPart,
      Segment.openapi]
  | cons l enclosing ih =>
    apply String.toList_injective
    rw [instanceTemplate, ← ih]
    simp [instanceSegments, passages, Segment.ofName, Settings.idPart, Segment.openapi,
      ResourceSpec.passage]

/-- Nothing but an identifier is the name of a parameter. -/
theorem Pattern.isIdent_of_mem_params {pattern name : String} (h : name ∈ params pattern) :
    IsIdent name.toList := by
  obtain ⟨s, hs, hname⟩ := List.mem_filterMap.mp h
  obtain ⟨piece, -, rfl⟩ := List.mem_map.mp hs
  obtain ⟨ident, hident, rfl⟩ := Option.map_eq_some_iff.mp hname
  rw [String.toList_ofList]
  cases hread : Segment.read piece with
  | fixed text =>
    rw [hread] at hident
    cases hident
  | param name constraint =>
    rw [hread] at hident
    cases hident
    exact Segment.isIdent_of_read hread

/-- A chain whose last resource shows its instances has a route for that. -/
theorem exists_route_detail
    (hspace : ∀ first ∈ (enclosing ++ [last]).head?, first.resource.options.space = none)
    (hdetail : .detail ∈ last.resource.allowed) {table : RouteTable}
    (h : (Definition.compile settings ⟨nest (enclosing ++ [last])⟩).1 = .ok table) :
    ∃ route ∈ table.routes, route.verb = .get ∧ route.controller = last.resource.controller ∧
      route.action = "show" ∧ route.path = instancePath settings enclosing last := by
  obtain ⟨hf, rfl⟩ := (Definition.compile_eq_ok_iff settings _ table).mp h
  let around := Nesting.root.through enclosing
  let o : Occurrence := ⟨around, .resources last.resource⟩
  have ho : o ∈ occurrencesAll .root (nest (enclosing ++ [last])) :=
    mem_occurrencesAll_nest.mpr ⟨enclosing, last, [], rfl, .inl rfl⟩
  let m : Registration :=
    { verb := .get
      path := (around.resources last.resource).path settings ++ Action.detail.suffix settings
      target := ⟨last.resource.controller, "show", (around.resources last.resource).chain⟩ }
  have hm : m ∈ o.registrations settings := List.mem_map_of_mem hdetail
  refine ⟨m.route, ?_, rfl, rfl, rfl, ?_⟩
  · rw [Definition.table_draw, madeBy, untilFault_of_faultless hf]
    exact List.mem_map_of_mem (List.mem_flatMap.mpr ⟨o, ho, hm⟩)
  · have hsegments := @Nesting.segments_through settings enclosing last [] hspace
    change (around.resources last.resource).path settings ++ Action.detail.suffix settings = _
    rw [Nesting.path_eq_written, hsegments, Action.suffix_eq, instancePath_eq,
      ← String.ofList_append, ← written_append, instanceSegments, List.append_assoc]
    rfl

/-- Under the default settings the ids of a nested route come back from its path as they are
written if and only if the parameter names around it are identifiers. Then the route has an
expression, and a form in braces with these ids. The outermost resource has no namespace of its
own here, and no name begins with a colon. -/
theorem Definition.chain_parameters (enclosing : List Link) (last : Link)
    (hspace : ∀ first ∈ (enclosing ++ [last]).head?, first.resource.options.space = none)
    (hcolon : ∀ l ∈ enclosing ++ [last], l.resource.name.toList.head? ≠ some ':')
    (hdetail : .detail ∈ last.resource.allowed) (table : RouteTable)
    (h : (compile .default ⟨nest (enclosing ++ [last])⟩).1 = .ok table) :
    ∃ route ∈ table.routes, route.verb = .get ∧ route.controller = last.resource.controller ∧
      route.action = "show" ∧ route.path = instancePath .default enclosing last ∧
      (Pattern.params route.path =
          (enclosing.map fun l => l.resource.param ++ "_id") ++ ["id"] ↔
        ∀ l ∈ enclosing, IsIdent l.resource.param.toList) ∧
      ((∀ l ∈ enclosing, IsIdent l.resource.param.toList) →
        Pattern.openapi route.path = instanceTemplate enclosing last ∧
        ∃ re, Regex.ofSource? (Pattern.source route.path) = some re ∧
          (re.expr.fits = true → Pattern.regex? route.path = some re)) := by
  obtain ⟨route, hroute, hverb, hcontroller, haction, hpath⟩ :=
    exists_route_detail hspace hdetail h
  have hfaults := ((compile_eq_ok_iff .default _ table).mp h).1
  have hfaultless : ∀ l ∈ enclosing ++ [last],
      IsSegment l.resource.name ∧ IsSegment l.resource.param := fun l hl =>
    ResourceSpec.isSegment_of_faultless (Link.faultless hfaults hl).1
  have hmeant : (∀ l ∈ enclosing, IsIdent l.resource.param.toList) →
      ∀ s ∈ instanceSegments .default enclosing last, s.IsMeant Settings.default := by
    intro hident
    have hlegible : ∀ l ∈ enclosing, l.resource.IsLegible := fun l hl =>
      have hl' : l ∈ enclosing ++ [last] := List.mem_append_left _ hl
      Link.isLegible hfaults hl' (hcolon l hl') (hident l hl)
    have hlast : last ∈ enclosing ++ [last] := List.mem_append_right _ List.mem_cons_self
    rw [instanceSegments, List.forall_mem_append, List.forall_mem_cons, List.forall_mem_singleton]
    exact ⟨isMeant_passages hlegible, .name (hfaultless last hlast).1 (hcolon last hlast),
      isMeant_id .default⟩
  refine ⟨route, hroute, hverb, hcontroller, haction, hpath, ⟨fun hparams l hl => ?_,
    fun hident => ?_⟩, fun hident => ⟨?_, ?_⟩⟩
  · have hmem : l.resource.param ++ "_id" ∈ Pattern.params route.path := by
      rw [hparams]
      exact List.mem_append_left _ (List.mem_map_of_mem hl)
    have hne : l.resource.param.toList ≠ [] := by
      simpa using (hfaultless l (List.mem_append_left _ hl)).2.1
    have hident := Pattern.isIdent_of_mem_params hmem
    rw [String.toList_append, isIdent_append_iff hne] at hident
    exact hident.1
  · have hlegible := fun s hs => (hmeant hident s hs).legible Settings.embeds_default
    rw [hpath, instancePath_eq, params_written hlegible, instanceSegments, List.filterMap_append,
      names_passages]
    rfl
  · have hlegible := fun s hs => (hmeant hident s hs).legible Settings.embeds_default
    rw [hpath, instancePath_eq, openapi_written hlegible, openapi_instanceSegments]
  · obtain ⟨parts, -, hsource⟩ := @Address.ofSource?_path _ _ Settings.embeds_default
      ⟨.get, instanceSegments .default enclosing last⟩ (hmeant hident)
    rw [hpath, instancePath_eq]
    exact ⟨_, hsource, regex?_of_fits hsource⟩

/-- Articles with an underscore in the name of their parameter, around comments. -/
def Link.articles : List Link :=
  [⟨⟨"articles", { param := some "blog_post" }⟩, [[(.post, "publish")]]⟩, ⟨⟨"comments", {}⟩, []⟩]

theorem Definition.chain_parameters_articles :
    ∃ table, (compile .default ⟨nest (Link.articles ++ [⟨⟨"likes", {}⟩, []⟩])⟩).1 = .ok table ∧
      ∃ route ∈ table.routes,
        Pattern.params route.path = ["blog_post_id", "comment_id", "id"] ∧
        Pattern.openapi route.path =
          "/articles/\x7bblog_post_id\x7d/comments/\x7bcomment_id\x7d/likes/\x7bid\x7d" := by
  have hcompile := (compile_eq_ok_iff .default
    ⟨nest (Link.articles ++ [⟨⟨"likes", {}⟩, []⟩])⟩ _).mpr ⟨by decide, rfl⟩
  obtain ⟨route, hroute, -, -, -, -, hparams, htemplate⟩ :=
    chain_parameters Link.articles ⟨⟨"likes", {}⟩, []⟩ (by decide) (by decide) (by decide) _
      hcompile
  have hident : ∀ l ∈ Link.articles, IsIdent l.resource.param.toList := by decide
  refine ⟨_, hcompile, route, hroute, ?_, ?_⟩
  · rw [hparams.mpr hident]
    decide
  · rw [(htemplate hident).1]
    decide

/-- A hyphen in a name is lost on the reader: the id of the post is no parameter. -/
theorem Definition.chain_parameters_hyphen :
    ∃ table, (compile .default ⟨nest [⟨⟨"blog-posts", { keep := some [] }⟩, []⟩,
        ⟨⟨"comments", { keep := some ["show"] }⟩, []⟩]⟩).1 = .ok table ∧
      table.paths = ["/blog-posts/:blog-post_id(\\d+)/comments/:id(\\d+)"] ∧
      table.paths.map Pattern.params = [["id"]] ∧
      table.paths.map Pattern.openapi =
        ["/blog-posts/:blog-post_id(\\d+)/comments/\x7bid\x7d"] := by
  have hcompile := (compile_eq_ok_iff .default ⟨nest [⟨⟨"blog-posts", { keep := some [] }⟩, []⟩,
    ⟨⟨"comments", { keep := some ["show"] }⟩, []⟩]⟩ _).mpr ⟨by decide, rfl⟩
  exact ⟨_, hcompile, by decide, by decide, by decide⟩

end RoutePlan
