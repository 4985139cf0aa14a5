import RoutePlan.Proofs.Program.Calls

/-! # The log and the table

What is drawn and what is reported of it are told by the same deeds, so the two stay in step: a
route is reported when it is registered, and a direct verb that declares nothing is reported where
it is called. That a definition is compiled is reported at the end, and only then.
-/

namespace RoutePlan

variable {τ η : Type} {settings : Settings}

namespace Event

/-- What a log shows of an event. -/
def shown (e : Event) : Level × String × List (String × Field) := (e.level, e.message, e.fields)

/-- The events with the message, in order, as a log shows them. -/
def saying (message : String) (events : List Event) :
    List (Level × String × List (String × Field)) :=
  events.filterMap fun e => if e.message = message then some e.shown else none

end Event

open Event

/-- How a route is reported. -/
def Route.report (r : Route) : Level × String × List (String × Field) :=
  (.debug, "Route registered", [("method", .text r.verb.method), ("path", .text r.path),
    ("target", .text r.dispatch.handlerName)])

def Registration.report (r : Registration) : Level × String × List (String × Field) :=
  (.debug, "Route registered", [("method", .text r.verb.method), ("path", .text r.path),
    ("target", .text r.target.handlerName)])

/-- Named dispatches bear the display of their descriptors. -/
theorem Registration.map_report_route (made : List Registration) :
    (made.map route).map Route.report = made.map report := by
  rw [List.map_map]
  rfl

/-- A definition is compiled, into so many routes. -/
def compiledReport (routes : Nat) : Level × String × List (String × Field) :=
  (.info, "Route definitions compiled", [("routes_count", .count routes)])

namespace DirectCall

/-- How the call is reported: inside a resource it declares nothing, though its target is
checked. -/
def warning? (c : DirectCall) : Option (Level × String × List (String × Field)) :=
  match c.spec.resolve with
  | .error _ => none
  | .ok _ => c.scope.frame?.map fun frame =>
    (.warn, "Direct verb declaration ignored inside resources block",
      [("resource", .text frame.name), ("verb", .text c.verb.name), ("path", .text c.path)])

/-- What the call registers outside resources. -/
def origin? (c : DirectCall) : Option Origin :=
  match c.spec.resolve with
  | .error _ => none
  | .ok target =>
    match c.scope.frame? with
    | some _ => none
    | none => some (.direct c.scope c.verb c.path target)

end DirectCall

/-- The origin, if it is a direct verb. -/
def Origin.direct? : Origin → Option Origin
  | .direct scope verb path target => some (.direct scope verb path target)
  | .conventional .. | .extra .. => none

/-! ## What deeds are reported as -/

namespace Deed

variable (settings) (deeds : List Deed)

theorem saying_registered :
    saying "Route registered" (deeds.map (event settings)) =
      (deeds.filterMap origin?).map fun o => (o.registration settings).report := by
  rw [saying, List.filterMap_map, List.map_filterMap]
  congr 1
  funext d
  cases d with
  | made o => rfl
  | ignored resource verb path => simp [event, message, origin?]
  | drawnInPlace resource => simp [event, message, origin?]

/-- What is warned of a deed. -/
def warning? : Deed → Option (Level × String × List (String × Field))
  | ignored resource verb path =>
    some (.warn, "Direct verb declaration ignored inside resources block",
      [("resource", .text resource), ("verb", .text verb.name), ("path", .text path)])
  | made _ | drawnInPlace _ => none

theorem saying_ignored :
    saying "Direct verb declaration ignored inside resources block"
        (deeds.map (event settings)) = deeds.filterMap warning? := by
  rw [saying, List.filterMap_map]
  congr 1
  funext d
  cases d with
  | made o => simp [event, message, warning?]
  | ignored resource verb path => rfl
  | drawnInPlace resource => simp [event, message, warning?]

theorem saying_compiled :
    saying "Route definitions compiled" (deeds.map (event settings)) = [] := by
  rw [saying, List.filterMap_map, List.filterMap_eq_nil_iff]
  intro d _
  cases d <;> simp [event, message]

end Deed

/-! ## What comes of direct verbs -/

section Block

variable (scope : Scope) (position : List Nat) (index : Nat) (block : List Step)

/-- What the block does, in order. -/
def blockDeeds : List Deed := (blockCourse scope position index block).bare.deeds

/-- Where the routes of the block come from, in order. -/
def blockOrigins : List Origin := (blockDeeds scope position index block).filterMap Deed.origin?

theorem blockDeeds_direct :
    (blockDeeds scope position index block).filterMap Deed.direct? =
      (blockCalls scope block).deeds.filterMap DirectCall.deed? :=
  congrArg Course.deeds (blockCourse_direct scope position index block)

theorem blockDeeds_warning :
    (blockDeeds scope position index block).filterMap Deed.warning? =
      (blockCalls scope block).deeds.filterMap DirectCall.warning? := by
  have hdeed : Deed.warning? = fun d => d.direct?.bind Deed.warning? := by
    funext d
    cases d with
    | made o => cases o <;> rfl
    | _ => rfl
  have hcall : DirectCall.warning? = fun c => c.deed?.bind Deed.warning? := by
    funext c
    rw [DirectCall.warning?, DirectCall.deed?]
    cases c.spec.resolve with
    | error f => rfl
    | ok target => cases c.scope.frame? <;> rfl
  rw [hdeed, ← List.filterMap_filterMap, blockDeeds_direct, List.filterMap_filterMap, ← hcall]

/-- The routes of direct verbs are those of the calls outside resources. -/
theorem blockOrigins_direct :
    (blockOrigins scope position index block).filterMap Origin.direct? =
      (blockCalls scope block).deeds.filterMap DirectCall.origin? := by
  have hdeed : (fun d => (Deed.origin? d).bind Origin.direct?)
      = fun d => d.direct?.bind Deed.origin? := by
    funext d
    cases d with
    | made o => cases o <;> rfl
    | _ => rfl
  have hcall : DirectCall.origin? = fun c => c.deed?.bind Deed.origin? := by
    funext c
    rw [DirectCall.origin?, DirectCall.deed?]
    cases c.spec.resolve with
    | error f => rfl
    | ok target => cases c.scope.frame? <;> rfl
  rw [blockOrigins, List.filterMap_filterMap, hdeed, ← List.filterMap_filterMap,
    blockDeeds_direct, List.filterMap_filterMap, ← hcall]

/-- What a run of the block comes to, on any table. -/
theorem runBlock_log (settings : Settings) (sink : Sink τ η) (table : τ) :
    let drawn := runBlock (.running settings sink) scope position index block table
    let events := drawn.notes.filterMap Note.event?
    let made := (blockOrigins scope position index block).map (·.registration settings)
    drawn.outcome = (blockCalls scope block).outcome ∧ drawn.table = sink.enter table made ∧
      saying "Route registered" events = made.map Registration.report ∧
      saying "Direct verb declaration ignored inside resources block" events =
        (blockCalls scope block).deeds.filterMap DirectCall.warning? := by
  obtain ⟨houtcome, htable, hevents⟩ := Course.perform_entries settings sink
    (blockCourse scope position index block) table
  rw [← runBlock_eq_perform] at houtcome htable hevents
  refine ⟨?_, htable, ?_, ?_⟩
  · have hcalls := congrArg Course.outcome (blockCourse_direct scope position index block)
    exact houtcome.trans hcalls
  · rw [hevents, Deed.saying_registered, List.map_map]
    rfl
  · rw [hevents, Deed.saying_ignored, ← blockDeeds_warning scope position index]
    rfl

end Block

/-! ## Compiling a definition -/

namespace Definition

/-- What the definition does, in order. -/
def deeds (d : Definition) : List Deed := (courseAll .root d.declarations).deeds

theorem draw_eq (settings : Settings) (d : Definition) :
    d.draw settings =
      ⟨(courseAll .root d.declarations).outcome,
        RouteTable.sink.enter {} ((d.deeds.filterMap Deed.origin?).map (·.registration settings)),
        d.deeds.map (Deed.event settings)⟩ := by
  rw [draw, replay, replayAll_eq_perform, Course.perform_act]
  rfl

/-- A definition that compiles is reported last and once, with the number of its routes; one that
fails is not. -/
theorem compile_log (settings : Settings) (d : Definition) :
    match d.compile settings with
    | (.ok table, events) => ∃ before last, events = before ++ [last] ∧
        last.shown = compiledReport table.routes.length ∧
        saying "Route definitions compiled" before = [] ∧
        saying "Route registered" before = table.routes.map Route.report
    | (.error _, events) => saying "Route definitions compiled" events = [] := by
  simp only [compile, draw_eq]
  cases (courseAll .root d.declarations).outcome with
  | error f => exact Deed.saying_compiled settings d.deeds
  | ok u =>
    refine ⟨_, _, rfl, rfl, Deed.saying_compiled settings d.deeds, ?_⟩
    rw [Deed.saying_registered, RouteTable.routes_enter, List.nil_append,
      Registration.map_report_route, List.map_map]
    rfl

end Definition

/-- For every route that a block appends to a table the log has one event, in order, with the
route's method, path and target. For every direct verb that is called inside a resource with a
well-formed target it has one warning, and no route comes of the call. The log of a definition
that compiles ends with its only report of that, and a definition that fails has none. -/
theorem log_mirrors_table :
    (∀ (settings : Settings) (scope : Scope) (position : List Nat) (index : Nat)
        (block : List Step), ∃ origins : List Origin,
      origins.filterMap Origin.direct? =
        (blockCalls scope block).deeds.filterMap DirectCall.origin? ∧
      (∀ {τ η : Type} (sink : Sink τ η) (table : τ),
        let drawn := runBlock (.running settings sink) scope position index block table
        let events := drawn.notes.filterMap Note.event?
        let made := origins.map (·.registration settings)
        drawn.outcome = (blockCalls scope block).outcome ∧ drawn.table = sink.enter table made ∧
          saying "Route registered" events = made.map Registration.report ∧
          saying "Direct verb declaration ignored inside resources block" events =
            (blockCalls scope block).deeds.filterMap DirectCall.warning?) ∧
      ∀ table : RouteTable,
        let drawn := runBlock (.running settings RouteTable.sink) scope position index block table
        ∃ routes, drawn.table.routes = table.routes ++ routes ∧
          saying "Route registered" (drawn.notes.filterMap Note.event?) =
            routes.map Route.report) ∧
    ∀ (settings : Settings) (d : Definition),
      match d.compile settings with
      | (.ok table, events) => ∃ before last, events = before ++ [last] ∧
          last.shown = compiledReport table.routes.length ∧
          saying "Route definitions compiled" before = [] ∧
          saying "Route registered" before = table.routes.map Route.report
      | (.error _, events) => saying "Route definitions compiled" events = [] := by
  refine ⟨fun settings scope position index block =>
    ⟨blockOrigins scope position index block, blockOrigins_direct scope position index block,
      runBlock_log scope position index block settings, fun table => ?_⟩, Definition.compile_log⟩
  obtain ⟨-, htable, hregistered, -⟩ :=
    runBlock_log scope position index block settings RouteTable.sink table
  refine ⟨((blockOrigins scope position index block).map (·.registration settings)).map
    Registration.route, ?_, ?_⟩
  · rw [htable, RouteTable.routes_enter]
  · rw [hregistered, Registration.map_report_route]

end RoutePlan
