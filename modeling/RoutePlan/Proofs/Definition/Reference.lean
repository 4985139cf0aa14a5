import RoutePlan.Proofs.Definition.Replay

/-! # The meaning of a definition

A definition that compiles is the concatenation of what its declarations mean, in document
order, and each of them means what `Occurrence.routes` reads off the blocks around it.
-/

namespace RoutePlan.Definition

/-- Compilation has a meaning that is put together from the declarations one by one. -/
theorem routes_of_compile (settings : Settings) (d : Definition) (table : RouteTable)
    (h : (d.compile settings).1 = .ok table) :
    table.routes = d.occurrences.flatMap (·.routes settings) := by
  obtain ⟨hf, rfl⟩ := (compile_eq_ok_iff settings d table).mp h
  rw [table_draw, map_route_madeBy, untilFault_of_faultless hf]

/-- A plan in which every kind of block stands inside another. -/
def journal : Definition where
  declarations := [
    .route .get "/health" (.shorthand "health#show"),
    .space ["api", "v1"] [
      .resources "posts" { drop := some ["destroy", "new"], space := some "blog" } [
        .route .get "/lost" (.shorthand "posts#lost"),
        .space ["in place"] [
          .actions .member [(.post, "publish")],
          .resources "categories" { keep := some ["edit", "index"], space := some "tags" } []],
        .actions .collection [(.get, "search")]],
      .route .put "login/" (.full ⟨"sessions", "create", some "auth", some "admin"⟩)]]

theorem compile_journal : ∃ table, (journal.compile Settings.default).1 = .ok table ∧
    table.routes = journal.occurrences.flatMap (·.routes Settings.default) ∧
    table.paths = ["/health", "/api/v1/blog/posts", "/api/v1/blog/posts/:id(\\d+)",
      "/api/v1/blog/posts", "/api/v1/blog/posts/:id(\\d+)/edit", "/api/v1/blog/posts/:id(\\d+)",
      "/api/v1/blog/posts/:id(\\d+)/publish",
      "/api/v1/blog/posts/:post_id(\\d+)/categories",
      "/api/v1/blog/posts/:post_id(\\d+)/categories/:id(\\d+)/edit",
      "/api/v1/blog/posts/search", "/api/v1/auth/login/"] := by
  have hcompile := (compile_eq_ok_iff Settings.default journal _).mpr ⟨by decide, rfl⟩
  have hroutes := routes_of_compile Settings.default journal _ hcompile
  refine ⟨_, hcompile, hroutes, ?_⟩
  rw [RouteTable.paths, hroutes]
  decide

end RoutePlan.Definition
