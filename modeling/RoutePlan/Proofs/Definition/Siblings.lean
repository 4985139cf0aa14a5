import RoutePlan.Proofs.Course

/-! # Siblings

The declarations of a block run one after the other at the same scope. What one of them comes to
depends on the scope alone: a declaration before it leaves a longer table and nothing else. So a
block can be cut in two and run in two parts, and in a document that compiles the entries of a
block can change places and take their routes with them.
-/

namespace RoutePlan

variable {τ η ν α β δ : Type} {scope : Scope} {settings : Settings}

/-! ## One part after the other -/

theorem replayAll_append (env : Surroundings τ η ν) (scope : Scope)
    (first second : List Declaration) :
    replayAll env scope (first ++ second) =
      replayAll env scope first >>= fun _ => replayAll env scope second := by
  induction first with
  | nil => rw [replayAll]; rfl
  | cons d rest ih => rw [List.cons_append, replayAll, replayAll, ih, bind_assoc]

/-! ## Lists of steps without a fault -/

namespace Course

/-- A course for each entry of a list, one after the other. -/
def each (f : β → Course δ Unit) : List β → Course δ Unit
  | [] => pure ()
  | b :: rest => do
    f b
    each f rest

variable {f : β → Course δ Unit}

theorem each_singleton (f : β → Course δ Unit) (b : β) : each f [b] = f b := bind_pure (f b)

theorem each_append (f : β → Course δ Unit) (first second : List β) :
    each f (first ++ second) = each f first >>= fun _ => each f second := by
  induction first with
  | nil => rfl
  | cons b rest ih => rw [List.cons_append, each, each, ih, bind_assoc]

/-- A list goes through if each of its entries does by itself. -/
theorem each_eq_ok_iff (f : β → Course δ Unit) (l : List β) :
    (each f l).outcome = .ok () ↔ ∀ b ∈ l, (f b).outcome = .ok () := by
  induction l with
  | nil => simp [each, pure]
  | cons b rest ih =>
    rw [each, outcome_bind_eq_ok_iff, List.forall_mem_cons, ← ih]
    exact ⟨fun ⟨_, hb, hrest⟩ => ⟨hb, hrest⟩, fun ⟨hb, hrest⟩ => ⟨(), hb, hrest⟩⟩

theorem deeds_each {l : List β} (h : (each f l).outcome = .ok ()) :
    (each f l).deeds = l.flatMap fun b => (f b).deeds := by
  rw [each_eq_ok_iff] at h
  induction l with
  | nil => rfl
  | cons b rest ih =>
    obtain ⟨hb, hrest⟩ := List.forall_mem_cons.mp h
    rw [each, bind_of_ok hb, ih hrest, List.flatMap_cons]

theorem each_perm {l l' : List β} (hperm : l.Perm l') (h : (each f l).outcome = .ok ()) :
    (each f l').outcome = .ok () := by
  rw [each_eq_ok_iff] at h ⊢
  exact fun b hb => h b (hperm.mem_iff.mpr hb)

end Course

open Course

theorem courseAll_eq_each (scope : Scope) (block : List Declaration) :
    courseAll scope block = each (fun d => d.course scope) block := by
  induction block with
  | nil => rw [courseAll]; rfl
  | cons d rest ih => rw [courseAll, each, ih]

theorem courseAll_singleton (scope : Scope) (d : Declaration) :
    courseAll scope [d] = d.course scope := by
  rw [courseAll_eq_each, each_singleton]

theorem courseAll_append (scope : Scope) (first second : List Declaration) :
    courseAll scope (first ++ second) =
      courseAll scope first >>= fun _ => courseAll scope second := by
  simp only [courseAll_eq_each, each_append]

theorem ActionScope.actionsCourse_eq_each (scope : ActionScope) (actions : List (Verb × String)) :
    scope.actionsCourse actions = each (fun a => scope.actionCourse a.1 a.2) actions := by
  induction actions with
  | nil => rfl
  | cons a rest ih => rw [actionsCourse, each, ih]

/-! ## Blocks and what is around them -/

/-- A document in which one block is left open. -/
inductive Hole where
  | here
  | space (before : List Declaration) (names : List String) (inside : Hole)
      (after : List Declaration)
  | resources (before : List Declaration) (name : String) (options : OptionSpec) (inside : Hole)
      (after : List Declaration)

namespace Hole

def fill (block : List Declaration) : Hole → List Declaration
  | here => block
  | space before names inside after => before ++ .space names (inside.fill block) :: after
  | resources before name options inside after =>
    before ++ .resources name options (inside.fill block) :: after

/-- The scope at which the block runs. -/
def enter (scope : Scope) : Hole → Except Fault Scope
  | here => .ok scope
  | space _ names inside _ => do
    let inner ← (scope.spaceCourse names).outcome
    inside.enter inner
  | resources _ name options inside _ => do
    let options ← options.resolve
    let inner ← (scope.resourceCourse name options).outcome
    inside.enter inner

end Hole

/-- In a block that goes through, a declaration can be exchanged for any that goes through. -/
theorem courseAll_around {before after : List Declaration} {d : Declaration}
    (h : (courseAll scope (before ++ d :: after)).outcome = .ok ()) :
    (d.course scope).outcome = .ok () ∧ ∀ e : Declaration, (e.course scope).outcome = .ok () →
      courseAll scope (before ++ e :: after) =
        ⟨.ok (), (courseAll scope before).deeds ++ (e.course scope).deeds ++
          (courseAll scope after).deeds⟩ := by
  simp only [courseAll_eq_each] at h ⊢
  rw [each_append, outcome_bind_eq_ok_iff] at h
  obtain ⟨u, hbefore, h⟩ := h
  rw [each, outcome_bind_eq_ok_iff] at h
  obtain ⟨v, hd, hafter⟩ := h
  refine ⟨hd, fun e he => ?_⟩
  rw [each_append, bind_of_ok hbefore, each, bind_of_ok he, hafter, List.append_assoc]

/-- Around a block that runs at `inner` the same is done whatever stands in the block and goes
through. -/
def Encloses (scope : Scope) (fill : List Declaration → List Declaration) (inner : Scope) : Prop :=
  ∃ before after, ∀ block, (courseAll inner block).outcome = .ok () →
    courseAll scope (fill block) = ⟨.ok (), before ++ (courseAll inner block).deeds ++ after⟩

theorem encloses_here (scope : Scope) : Encloses scope (fun block => block) scope := by
  refine ⟨[], [], fun block hblock => ?_⟩
  rw [List.nil_append, List.append_nil, ← hblock]

/-- A declaration whose block goes through opens a scope for it, and encloses what the block
does. -/
theorem Encloses.nest {build : List Declaration → Declaration} {lead : Course Deed Scope}
    {before after block : List Declaration}
    (hbuild : ∀ block, (build block).course scope = lead >>= fun s => courseAll s block)
    (h : (courseAll scope (before ++ build block :: after)).outcome = .ok ()) :
    ∃ s, lead.outcome = .ok s ∧ (courseAll s block).outcome = .ok () ∧
      ∀ fill inner, Encloses s fill inner →
        Encloses scope (fun block => before ++ build (fill block) :: after) inner := by
  obtain ⟨hd, haround⟩ := courseAll_around h
  rw [hbuild] at hd
  obtain ⟨s, hopen, hinside⟩ := outcome_bind_eq_ok_iff.mp hd
  refine ⟨s, hopen, hinside, fun fill inner hencloses => ?_⟩
  obtain ⟨first, last, hfill⟩ := hencloses
  refine ⟨(courseAll scope before).deeds ++ lead.deeds ++ first,
    last ++ (courseAll scope after).deeds, fun other hother => ?_⟩
  have hcourse : (build (fill other)).course scope =
      ⟨.ok (), lead.deeds ++ (first ++ (courseAll inner other).deeds ++ last)⟩ := by
    rw [hbuild, bind_of_ok hopen, hfill other hother]
  rw [haround _ (by rw [hcourse]), hcourse]
  simp only [List.append_assoc]

/-- What a document does outside a block does not depend on the block, as long as it goes
through. -/
theorem Hole.encloses (hole : Hole) {scope : Scope} {block : List Declaration}
    (h : (courseAll scope (hole.fill block)).outcome = .ok ()) :
    ∃ inner, hole.enter scope = .ok inner ∧ (courseAll inner block).outcome = .ok () ∧
      Encloses scope (fun block => hole.fill block) inner := by
  -- From the outermost block inwards: the scope of a block is opened by its declaration alone.
  induction hole generalizing scope with
  | here => exact ⟨scope, rfl, h, encloses_here scope⟩
  | space before names inside after ih =>
    have hbuild (block : List Declaration) : (Declaration.space names block).course scope =
        scope.spaceCourse names >>= fun s => courseAll s block := by rw [Declaration.course]
    obtain ⟨s, hopen, hinside, hnest⟩ := Encloses.nest hbuild h
    obtain ⟨inner, henter, hblock, hencloses⟩ := ih hinside
    refine ⟨inner, ?_, hblock, hnest _ _ hencloses⟩
    rw [enter, hopen]
    exact henter
  | resources before name options inside after ih =>
    have hbuild (block : List Declaration) :
        (Declaration.resources name options block).course scope =
          (ofExcept options.resolve >>= fun o => scope.resourceCourse name o) >>= fun s =>
            courseAll s block := by rw [Declaration.course, bind_assoc]
    obtain ⟨s, hopen, hinside, hnest⟩ := Encloses.nest hbuild h
    obtain ⟨chosen, hresolve, hresource⟩ := outcome_bind_eq_ok_iff.mp hopen
    obtain ⟨inner, henter, hblock, hencloses⟩ := ih hinside
    refine ⟨inner, ?_, hblock, hnest _ _ hencloses⟩
    rw [enter, show options.resolve = .ok chosen from hresolve]
    change ((scope.resourceCourse name chosen).outcome >>= fun s => inside.enter s) = _
    rw [hresource]
    exact henter

/-! ## Routes -/

/-- The routes of deeds. -/
def routesOf (settings : Settings) (deeds : List Deed) : List Route :=
  (deeds.filterMap Deed.origin?).map fun o => (o.registration settings).route

theorem routesOf_append (settings : Settings) (first second : List Deed) :
    routesOf settings (first ++ second) = routesOf settings first ++ routesOf settings second := by
  simp [routesOf]

/-- The routes that a declaration adds to an empty table. -/
def Declaration.routes (settings : Settings) (scope : Scope) (d : Declaration) : List Route :=
  (d.replay ⟨settings, RouteTable.sink, id⟩ scope {}).table.routes

theorem routes_perform (settings : Settings) (report : Event → ν) (course : Course Deed α)
    (table : RouteTable) :
    ((course.perform (Deed.act ⟨settings, RouteTable.sink, report⟩)) table).table.routes =
      table.routes ++ routesOf settings course.deeds := by
  have hmakes := Course.makes_perform
    (Deed.makes_act (⟨settings, RouteTable.sink, report⟩ : Surroundings RouteTable Dispatch ν))
    course table
  rw [hmakes.2, RouteTable.routes_enter, routesOf, List.map_map]
  rfl

theorem Declaration.routes_eq (settings : Settings) (scope : Scope) (d : Declaration) :
    d.routes settings scope = routesOf settings (d.course scope).deeds := by
  rw [routes, d.replay_eq_perform, routes_perform]
  rfl

theorem routesOf_flatMap (settings : Settings) (f : β → List Deed) (l : List β) :
    routesOf settings (l.flatMap f) = l.flatMap fun b => routesOf settings (f b) := by
  induction l with
  | nil => rfl
  | cons b rest ih => rw [List.flatMap_cons, routesOf_append, ih, List.flatMap_cons]

theorem routesOf_courseAll {block : List Declaration}
    (h : (courseAll scope block).outcome = .ok ()) :
    routesOf settings (courseAll scope block).deeds =
      block.flatMap (·.routes settings scope) := by
  rw [courseAll_eq_each] at h ⊢
  rw [deeds_each h, routesOf_flatMap]
  simp only [Declaration.routes_eq]

theorem Definition.compile_eq_course (settings : Settings) (d : Definition) :
    (d.compile settings).1 = (courseAll .root d.declarations).outcome.map fun _ =>
      ⟨routesOf settings (courseAll .root d.declarations).deeds⟩ := by
  have hdraw : d.draw settings = (courseAll .root d.declarations).perform
      (Deed.act ⟨settings, RouteTable.sink, id⟩) {} :=
    congrFun (replayAll_eq_perform ⟨settings, RouteTable.sink, id⟩ .root d.declarations) {}
  have houtcome : (d.draw settings).outcome = (courseAll .root d.declarations).outcome := by
    rw [hdraw]
    exact (Course.makes_perform (Deed.makes_act _) _ _).1
  have hroutes : (d.draw settings).table.routes =
      routesOf settings (courseAll .root d.declarations).deeds := by
    rw [hdraw]
    exact routes_perform settings id _ {}
  rw [← houtcome, ← hroutes, compile]
  cases (d.draw settings).outcome <;> rfl

theorem Definition.courseAll_of_compile {d : Definition} {table : RouteTable}
    (h : (d.compile settings).1 = .ok table) :
    (courseAll .root d.declarations).outcome = .ok () := by
  rw [compile_eq_course] at h
  cases hcase : (courseAll .root d.declarations).outcome with
  | error f => simp [hcase, Except.map] at h
  | ok u => rfl

/-! ## Permuted blocks -/

/-- In a document that compiles, the declarations of a block take their routes along when they
change places. -/
theorem Hole.compile_perm (hole : Hole) {block : List Declaration} {table : RouteTable}
    (h : ((⟨hole.fill block⟩ : Definition).compile settings).1 = .ok table) :
    ∃ scope before after, hole.enter .root = .ok scope ∧ ∀ other, block.Perm other →
      ((⟨hole.fill other⟩ : Definition).compile settings).1 =
        .ok ⟨before ++ other.flatMap (·.routes settings scope) ++ after⟩ := by
  obtain ⟨scope, henter, hblock, first, last, hfill⟩ :=
    hole.encloses (Definition.courseAll_of_compile h)
  refine ⟨scope, routesOf settings first, routesOf settings last, henter, fun other hperm => ?_⟩
  have hother : (courseAll scope other).outcome = .ok () := by
    rw [courseAll_eq_each] at hblock ⊢
    exact each_perm hperm hblock
  rw [Definition.compile_eq_course, hfill other hother, ← routesOf_courseAll hother,
    ← routesOf_append, ← routesOf_append]
  rfl

/-- The actions of a member or collection block count one by one. -/
theorem Declaration.deeds_actions {kind : ActionKind} {actions other : List (Verb × String)}
    (h : ((Declaration.actions kind actions).course scope).outcome = .ok ())
    (hperm : actions.Perm other) :
    ((Declaration.actions kind other).course scope).outcome = .ok () ∧
      ((Declaration.actions kind other).course scope).deeds =
        other.flatMap fun a => ((Declaration.actions kind [a]).course scope).deeds := by
  rw [Declaration.course] at h
  obtain ⟨inner, hinner, hactions⟩ := outcome_bind_eq_ok_iff.mp h
  rw [ActionScope.actionsCourse_eq_each] at hactions
  have hcourse (l : List (Verb × String)) : (Declaration.actions kind l).course scope =
      each (fun a => inner.actionCourse a.1 a.2) l := by
    rw [Declaration.course, bind_of_ok hinner, ActionScope.actionsCourse_eq_each]
    rfl
  have hother := each_perm hperm hactions
  rw [hcourse]
  refine ⟨hother, ?_⟩
  rw [deeds_each hother]
  simp only [hcourse, each_singleton]

theorem Hole.compile_perm_actions (hole : Hole) {before after : List Declaration}
    {kind : ActionKind} {actions : List (Verb × String)} {table : RouteTable}
    (h : ((⟨hole.fill (before ++ .actions kind actions :: after)⟩ : Definition).compile
      settings).1 = .ok table) :
    ∃ scope first last, hole.enter .root = .ok scope ∧ ∀ other, actions.Perm other →
      ((⟨hole.fill (before ++ .actions kind other :: after)⟩ : Definition).compile settings).1 =
        .ok ⟨first ++ other.flatMap
          (fun a => (Declaration.actions kind [a]).routes settings scope) ++ last⟩ := by
  obtain ⟨scope, henter, hblock, first, last, hfill⟩ :=
    hole.encloses (Definition.courseAll_of_compile h)
  obtain ⟨hactions, haround⟩ := courseAll_around hblock
  refine ⟨scope, routesOf settings (first ++ (courseAll scope before).deeds),
    routesOf settings ((courseAll scope after).deeds ++ last), henter, fun other hperm => ?_⟩
  obtain ⟨hother, hdeeds⟩ := Declaration.deeds_actions hactions hperm
  have hexchanged := haround _ hother
  have hroutes : other.flatMap (fun a => (Declaration.actions kind [a]).routes settings scope) =
      routesOf settings ((Declaration.actions kind other).course scope).deeds := by
    rw [hdeeds, routesOf_flatMap]
    simp only [Declaration.routes_eq]
  rw [Definition.compile_eq_course, hfill _ (by rw [hexchanged]), hexchanged, hroutes,
    ← routesOf_append, ← routesOf_append]
  simp only [List.append_assoc]
  rfl

/-! ## Siblings are independent -/

/-- The declarations of a block run one after the other, and one has nothing of another but the
table it leaves. -/
theorem siblings_independent (settings : Settings) :
    (∀ (env : Surroundings τ η ν) (scope : Scope) (first second : List Declaration) (table : τ),
      (∀ f, (replayAll env scope first table).outcome = .error f →
        replayAll env scope (first ++ second) table = replayAll env scope first table) ∧
      ((replayAll env scope first table).outcome = .ok () →
        let left := replayAll env scope first table
        let right := replayAll env scope second left.table
        replayAll env scope (first ++ second) table =
          ⟨right.outcome, right.table, left.notes ++ right.notes⟩)) ∧
    (∀ (env : Surroundings τ η ν) (scope : Scope) (block : List Declaration),
      ∃ outcome made, ∀ table, (replayAll env scope block table).outcome = outcome ∧
        (replayAll env scope block table).table = env.sink.enter table made) ∧
    (∀ (report : Event → ν) (scope : Scope) (block : List Declaration) (table : RouteTable),
      let env : Surroundings RouteTable Dispatch ν := ⟨settings, RouteTable.sink, report⟩
      (replayAll env scope block table).outcome = (replayAll env scope block {}).outcome ∧
        (replayAll env scope block table).table.routes =
          table.routes ++ (replayAll env scope block {}).table.routes) ∧
    (∀ (hole : Hole) (block : List Declaration) (table : RouteTable),
      ((⟨hole.fill block⟩ : Definition).compile settings).1 = .ok table →
        ∃ scope before after, hole.enter .root = .ok scope ∧
          table.routes = before ++ block.flatMap (·.routes settings scope) ++ after ∧
            ∀ other, block.Perm other →
              ((⟨hole.fill other⟩ : Definition).compile settings).1 =
                .ok ⟨before ++ other.flatMap (·.routes settings scope) ++ after⟩) ∧
    ∀ (hole : Hole) (before after : List Declaration) (kind : ActionKind)
      (actions : List (Verb × String)) (table : RouteTable),
      ((⟨hole.fill (before ++ .actions kind actions :: after)⟩ : Definition).compile
        settings).1 = .ok table →
          ∃ scope first last, hole.enter .root = .ok scope ∧
            table.routes = first ++ actions.flatMap
              (fun a => (Declaration.actions kind [a]).routes settings scope) ++ last ∧
              ∀ other, actions.Perm other →
                ((⟨hole.fill (before ++ .actions kind other :: after)⟩ : Definition).compile
                  settings).1 = .ok ⟨first ++ other.flatMap
                    (fun a => (Declaration.actions kind [a]).routes settings scope) ++ last⟩ := by
  refine ⟨fun env scope first second table => ?_, fun env scope block => ?_,
    fun report scope block table => ?_, fun hole block table h => ?_,
    fun hole before after kind actions table h => ?_⟩
  · rw [replayAll_append]
    exact ⟨fun f hf => Drawing.bind_of_error hf _, fun hok => Drawing.bind_of_ok hok _⟩
  · rw [replayAll_eq_perform]
    exact ⟨_, _, Course.makes_perform (Deed.makes_act env) _⟩
  · have houtcome := Course.makes_perform
      (Deed.makes_act (⟨settings, RouteTable.sink, report⟩ : Surroundings RouteTable Dispatch ν))
      (courseAll scope block)
    simp only [replayAll_eq_perform, routes_perform]
    exact ⟨(houtcome table).1.trans (houtcome {}).1.symm, by simp⟩
  · obtain ⟨scope, before, after, henter, hperm⟩ := hole.compile_perm h
    refine ⟨scope, before, after, henter, ?_, hperm⟩
    have hsame := hperm block (.refl _)
    rw [h] at hsame
    rw [Except.ok.inj hsame]
  · obtain ⟨scope, first, last, henter, hperm⟩ := hole.compile_perm_actions h
    refine ⟨scope, first, last, henter, ?_, hperm⟩
    have hsame := hperm actions (.refl _)
    rw [h] at hsame
    rw [Except.ok.inj hsame]

/-- A block inside a namespace inside another block. -/
private def shelf : Hole :=
  .space [.route .get "/health" (.shorthand "health#show")] ["api"]
    (.resources [] "posts" { keep := some ["show"], controller := some "articles" } .here
      [.resources "tags" { keep := some ["index"] } []]) []

private def comments : Declaration := .resources "comments" { keep := some ["new", "index"] } []

private def stars : Declaration := .actions .member [(.post, "star"), (.delete, "unstar")]

theorem siblings_independent_swapped :
    ∃ scope before after, shelf.enter .root = .ok scope ∧
      ((⟨shelf.fill [comments, stars]⟩ : Definition).compile .default).1 =
        .ok ⟨before ++ (comments.routes .default scope ++ stars.routes .default scope) ++ after⟩ ∧
      ((⟨shelf.fill [stars, comments]⟩ : Definition).compile .default).1 =
        .ok ⟨before ++ (stars.routes .default scope ++ comments.routes .default scope) ++ after⟩ ∧
      (comments.routes .default scope).map (·.path) =
        ["/api/posts/:post_id(\\d+)/comments", "/api/posts/:post_id(\\d+)/comments/new"] ∧
      (stars.routes .default scope).map (·.path) =
        ["/api/posts/:id(\\d+)/star", "/api/posts/:id(\\d+)/unstar"] := by
  have hcompile : ((⟨shelf.fill [comments, stars]⟩ : Definition).compile .default).1 = .ok _ :=
    Definition.compile_eq_course .default _
  obtain ⟨-, -, -, hperm, -⟩ := @siblings_independent RouteTable Dispatch Event .default
  obtain ⟨scope, before, after, henter, -, hother⟩ := hperm shelf _ _ hcompile
  have hswap := hother [stars, comments] (.swap stars comments [])
  refine ⟨scope, before, after, henter, ?_, by simpa using hswap, ?_⟩
  · simpa using hother [comments, stars] (.refl _)
  · obtain rfl := Except.ok.inj henter
    exact ⟨by decide, by decide⟩

end RoutePlan
