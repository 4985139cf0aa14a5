import RoutePlan.Proofs.Program.Reached

/-! # Places

A journal notes places under the positions of steps. Which place it notes under a position is
told by the operations around the position alone. So a step never changes the scope for the
steps after it, whether it ends well or with a fault that is caught: wherever a program looks,
it sees the place at which its block was entered.
-/

namespace RoutePlan

variable {τ η α β : Type} {scope : Scope} {position rest : List Nat} {place : Place}

/-! ## The place under a position -/

/-- The place where a block is entered, or what is noted further inside. -/
def Place.orInside (place : Place) (inside : List Nat → Option Place) (rest : List Nat) :
    Option Place :=
  if rest = [] then some place else inside rest

theorem Place.orInside_of_ne_nil {inside : List Nat → Option Place} (h : rest ≠ []) :
    place.orInside inside rest = inside rest :=
  if_neg h

def ActionStep.place? (scope : ActionScope) : ActionStep → List Nat → Option Place
  | .action _ _ => fun _ => none
  | .look => (Place.actions scope).orInside fun _ => none
  | .attempt step => step.place? scope

def actionsBlockPlace? (scope : ActionScope) : List ActionStep → List Nat → Option Place
  | step :: _, 0 :: rest => step.place? scope rest
  | _ :: block, (index + 1) :: rest => actionsBlockPlace? scope block (index :: rest)
  | [], _ | _ :: _, [] => none

mutual

/-- The place under a position inside a step, as the operations around the position open it. -/
def Step.place? (scope : Scope) : Step → List Nat → Option Place
  | .route _ _ _, _ | .document _, _ => none
  | .space names block, rest => do
    let inner ← (scope.spaceCourse names).outcome.toOption
    (Place.scope inner).orInside (blockPlace? inner block) rest
  | .resources name options block, rest => do
    let options ← options.resolve.toOption
    let inner ← (scope.resourceCourse name options).outcome.toOption
    (Place.scope inner).orInside (blockPlace? inner block) rest
  | .actions kind block, rest => do
    let inner ← (scope.enterActions kind).toOption
    (Place.actions inner).orInside (actionsBlockPlace? inner block) rest
  | .look, rest => (Place.scope scope).orInside (fun _ => none) rest
  | .attempt step, rest => step.place? scope rest

def blockPlace? (scope : Scope) : List Step → List Nat → Option Place
  | step :: _, 0 :: rest => step.place? scope rest
  | _ :: block, (index + 1) :: rest => blockPlace? scope block (index :: rest)
  | [], _ | _ :: _, [] => none

end

def Place.stem (settings : Settings) : Place → String
  | .scope s => s.stem settings
  | .actions a => a.stem settings

/-! ## Courses note what is told -/

namespace Course

/-- Under `position` a course notes the places that `place?` tells, and with each of them the
places of the blocks around it. -/
def Follows (place? : List Nat → Option Place) (position : List Nat)
    (course : Course Entry α) : Prop :=
  ∀ p place, .entered p place ∈ course.deeds → ∃ rest, p = position ++ rest ∧
    place? rest = some place ∧
      ∀ outer, outer <+: rest → ∃ b, .entered (position ++ outer) b ∈ course.deeds

/-- The same of a block whose steps are counted from `index` on. -/
def FollowsFrom (place? : List Nat → Option Place) (position : List Nat) (index : Nat)
    (course : Course Entry α) : Prop :=
  ∀ p place, .entered p place ∈ course.deeds → ∃ i rest, p = position ++ (index + i) :: rest ∧
    place? (i :: rest) = some place ∧
      ∀ outer, outer <+: rest → ∃ b, .entered (position ++ (index + i) :: outer) b ∈ course.deeds

variable {place? inside first later : List Nat → Option Place} {index : Nat}

theorem Follows.of_none {course : Course Entry α}
    (h : ∀ p place, .entered p place ∉ course.deeds) : Follows place? position course :=
  fun p place hmem => absurd hmem (h p place)

/-- What comes before and notes no place does not count. -/
theorem Follows.bind_none {course : Course Entry α} {next : α → Course Entry β}
    (hnone : ∀ p place, .entered p place ∉ course.deeds)
    (h : ∀ a, course.outcome = .ok a → Follows place? position (next a)) :
    Follows place? position (course >>= next) := by
  intro p place hmem
  rcases mem_bind.mp hmem with hmem | ⟨a, ha, hmem⟩
  · exact absurd hmem (hnone p place)
  · obtain ⟨rest, hp, hplace, hout⟩ := h a ha p place hmem
    refine ⟨rest, hp, hplace, fun outer houter => ?_⟩
    obtain ⟨b, hb⟩ := hout outer houter
    exact ⟨b, mem_bind.mpr (.inr ⟨a, ha, hb⟩)⟩

theorem Follows.bind_ofExcept {check : Except Fault α} {next : α → Course Entry β}
    (h : ∀ a, check = .ok a → Follows place? position (next a)) :
    Follows place? position (ofExcept check >>= next) :=
  Follows.bind_none (fun _ _ => List.not_mem_nil) h

theorem entered_not_mem_lift (course : Course Deed α) (p : List Nat) (place : Place) :
    .entered p place ∉ course.lift.deeds := by
  simp [lift]

theorem Follows.settled {course : Course Entry Unit} (other : List Nat)
    (h : Follows place? position course) : Follows place? position (course.settled other) := by
  have hmem (p : List Nat) (place : Place) :
      .entered p place ∈ (course.settled other).deeds ↔ .entered p place ∈ course.deeds := by
    simp [Course.settled]
  simpa only [Follows, hmem] using h

/-- A block notes its own place first, and then what is inside. -/
theorem Follows.opened {course : Course Entry Unit} (place : Place)
    (h : FollowsFrom inside position 0 course) :
    Follows (place.orInside inside) position
      (only (.entered position place) >>= fun _ => course) := by
  have hown : .entered position place ∈
      (only (.entered position place) >>= fun _ => course).deeds := List.mem_cons_self
  intro p q hmem
  rcases List.mem_cons.mp hmem with heq | hmem
  · obtain ⟨rfl, rfl⟩ : p = position ∧ q = place := by simpa using heq
    refine ⟨[], by simp, rfl, fun outer houter => ⟨q, ?_⟩⟩
    rwa [List.prefix_nil.mp houter, List.append_nil]
  · obtain ⟨i, rest, hp, hq, hout⟩ := h p q hmem
    rw [Nat.zero_add] at hp
    refine ⟨i :: rest, hp, by simpa [Place.orInside] using hq, fun outer houter => ?_⟩
    cases outer with
    | nil => exact ⟨place, by rwa [List.append_nil]⟩
    | cons j outer =>
      obtain ⟨rfl, hrest⟩ := List.cons_prefix_cons.mp houter
      obtain ⟨b, hb⟩ := hout outer hrest
      rw [Nat.zero_add] at hb
      exact ⟨b, List.mem_cons_of_mem _ hb⟩

theorem Follows.look (position : List Nat) (place : Place) :
    Follows (place.orInside fun _ => none) position (only (.entered position place)) := by
  have hnone : FollowsFrom (fun _ => none) position 0 (pure () : Course Entry Unit) :=
    fun p q hmem => absurd hmem List.not_mem_nil
  exact Follows.opened place hnone

theorem FollowsFrom.nil : FollowsFrom place? position index (pure () : Course Entry Unit) :=
  fun _ _ hmem => absurd hmem List.not_mem_nil

/-- A block is its first step under `index` and the other steps from the next index on. -/
theorem FollowsFrom.cons {step : Course Entry Unit} {next : Unit → Course Entry Unit}
    (hstep : Follows first (position ++ [index]) step)
    (hnext : FollowsFrom later position (index + 1) (next ()))
    (hzero : ∀ rest, place? (0 :: rest) = first rest)
    (hsucc : ∀ i rest, place? ((i + 1) :: rest) = later (i :: rest)) :
    FollowsFrom place? position index (step >>= next) := by
  intro p place hmem
  rcases mem_bind.mp hmem with hmem | ⟨u, hu, hmem⟩
  · obtain ⟨rest, hp, hplace, hout⟩ := hstep p place hmem
    refine ⟨0, rest, by simpa using hp, by rw [hzero, hplace], fun outer houter => ?_⟩
    obtain ⟨b, hb⟩ := hout outer houter
    exact ⟨b, mem_bind.mpr (.inl (by simpa using hb))⟩
  · obtain ⟨i, rest, hp, hplace, hout⟩ := hnext p place hmem
    have hshift : index + 1 + i = index + (i + 1) := by omega
    rw [hshift] at hp hout
    refine ⟨i + 1, rest, hp, by rw [hsucc, hplace], fun outer houter => ?_⟩
    obtain ⟨b, hb⟩ := hout outer houter
    exact ⟨b, mem_bind.mpr (.inr ⟨u, hu, hb⟩)⟩

end Course

open Course

theorem ActionStep.follows (scope : ActionScope) (position : List Nat) (step : ActionStep) :
    (step.course scope position).Follows (step.place? scope) position := by
  induction step with
  | action verb name =>
    rw [ActionStep.course]
    refine Follows.settled position (Follows.bind_ofExcept fun verb _ => ?_)
    exact Follows.of_none (entered_not_mem_lift _)
  | look =>
    rw [ActionStep.course]
    exact Follows.settled position (Follows.look position _)
  | attempt step ih =>
    rw [ActionStep.course, ActionStep.place?]
    exact ih

theorem actionsBlock_follows (scope : ActionScope) (position : List Nat) (index : Nat)
    (block : List ActionStep) :
    (actionsBlockCourse scope position index block).FollowsFrom (actionsBlockPlace? scope block)
      position index := by
  induction block generalizing index with
  | nil => exact FollowsFrom.nil
  | cons step rest ih =>
    exact FollowsFrom.cons (step.follows scope _) (ih (index + 1)) (fun _ => rfl) fun _ _ => rfl

mutual

theorem Step.follows (scope : Scope) (position : List Nat) (step : Step) :
    (step.course scope position).Follows (step.place? scope) position := by
  -- Attempting a step and settling it note no place, so only the steps that open a block count.
  cases step with
  | route verb path target =>
    rw [Step.course]
    refine Follows.settled position (Follows.bind_ofExcept fun verb _ => ?_)
    exact Follows.of_none (entered_not_mem_lift _)
  | space names block =>
    rw [Step.course]
    refine Follows.settled position (Follows.bind_none (entered_not_mem_lift _) ?_)
    intro inner (hopen : (scope.spaceCourse names).outcome = .ok inner)
    have htold : (Step.space names block).place? scope =
        (Place.scope inner).orInside (blockPlace? inner block) := by
      funext rest
      simp [Step.place?, hopen, Except.toOption]
    rw [htold]
    exact Follows.opened (.scope inner) (block_follows inner position 0 block)
  | resources name options block =>
    rw [Step.course]
    refine Follows.settled position (Follows.bind_ofExcept ?_)
    intro chosen hresolve
    refine Follows.bind_none (entered_not_mem_lift _) ?_
    intro inner (hopen : (scope.resourceCourse name chosen).outcome = .ok inner)
    have htold : (Step.resources name options block).place? scope =
        (Place.scope inner).orInside (blockPlace? inner block) := by
      funext rest
      simp [Step.place?, hresolve, hopen, Except.toOption]
    rw [htold]
    exact Follows.opened (.scope inner) (block_follows inner position 0 block)
  | actions kind block =>
    rw [Step.course]
    refine Follows.settled position (Follows.bind_ofExcept ?_)
    intro inner henter
    have htold : (Step.actions kind block).place? scope =
        (Place.actions inner).orInside (actionsBlockPlace? inner block) := by
      funext rest
      simp [Step.place?, henter, Except.toOption]
    rw [htold]
    exact Follows.opened (.actions inner) (actionsBlock_follows inner position 0 block)
  | document definition =>
    rw [Step.course]
    exact Follows.settled position (Follows.of_none (entered_not_mem_lift _))
  | look =>
    rw [Step.course]
    exact Follows.settled position (Follows.look position _)
  | attempt step =>
    rw [Step.course]
    exact step.follows scope position

theorem block_follows (scope : Scope) (position : List Nat) (index : Nat) (block : List Step) :
    (blockCourse scope position index block).FollowsFrom (blockPlace? scope block) position
      index := by
  cases block with
  | nil =>
    rw [blockCourse]
    exact FollowsFrom.nil
  | cons step rest =>
    rw [blockCourse]
    exact FollowsFrom.cons (step.follows scope _) (block_follows scope position (index + 1) rest)
      (fun _ => by rw [blockPlace?]) fun _ _ => by rw [blockPlace?]

end

/-! ## Looking around -/

def ActionStep.core : ActionStep → ActionStep
  | .attempt step => step.core
  | step => step

/-- A step without the attempts around it. -/
def Step.core : Step → Step
  | .attempt step => step.core
  | step => step

/-- The step under a position of a block looks at its place. -/
inductive LooksAt : List Step → List Nat → Prop where
  | look {block : List Step} {index : Nat} {step : Step} (here : block[index]? = some step)
      (look : step.core = .look) : LooksAt block [index]
  | space {block inner : List Step} {index : Nat} {step : Step} {names : List String}
      {rest : List Nat} (here : block[index]? = some step) (opens : step.core = .space names inner)
      (inside : LooksAt inner rest) : LooksAt block (index :: rest)
  | resources {block inner : List Step} {index : Nat} {step : Step} {name : String}
      {options : OptionSpec} {rest : List Nat} (here : block[index]? = some step)
      (opens : step.core = .resources name options inner) (inside : LooksAt inner rest) :
      LooksAt block (index :: rest)
  | actions {block : List Step} {inner : List ActionStep} {index last : Nat} {step : Step}
      {kind : ActionKind} {action : ActionStep} (here : block[index]? = some step)
      (opens : step.core = .actions kind inner) (inside : inner[last]? = some action)
      (look : action.core = .look) : LooksAt block [index, last]

theorem ActionStep.place?_core (scope : ActionScope) (step : ActionStep) :
    step.core.place? scope = step.place? scope := by
  induction step with
  | action verb name => rfl
  | look => rfl
  | attempt step ih => exact ih

theorem Step.place?_core (scope : Scope) (step : Step) :
    step.core.place? scope = step.place? scope := by
  fun_induction Step.core step with
  | case1 step ih =>
    funext rest
    rw [ih, Step.place?]
  | case2 step => rfl

theorem actionsBlockPlace?_cons (scope : ActionScope) (block : List ActionStep) (index : Nat)
    (rest : List Nat) : actionsBlockPlace? scope block (index :: rest) =
      block[index]?.bind fun step => step.place? scope rest := by
  induction block generalizing index with
  | nil => rfl
  | cons step block ih =>
    cases index with
    | zero => rfl
    | succ index => rw [actionsBlockPlace?, ih, List.getElem?_cons_succ]

theorem blockPlace?_cons (scope : Scope) (block : List Step) (index : Nat) (rest : List Nat) :
    blockPlace? scope block (index :: rest) =
      block[index]?.bind fun step => step.place? scope rest := by
  induction block generalizing index with
  | nil => rw [blockPlace?]; rfl
  | cons step block ih =>
    cases index with
    | zero => rw [blockPlace?]; rfl
    | succ index => rw [blockPlace?, ih, List.getElem?_cons_succ]

theorem LooksAt.ne_nil {block : List Step} {p : List Nat} (h : LooksAt block p) : p ≠ [] := by
  cases h <;> simp

theorem blockPlace?_of_core {block : List Step} {index : Nat} {step core : Step}
    (here : block[index]? = some step) (hcore : step.core = core) (scope : Scope)
    (rest : List Nat) : blockPlace? scope block (index :: rest) = core.place? scope rest := by
  rw [blockPlace?_cons, here, Option.bind_some, ← Step.place?_core, hcore]

/-- A look sees the place at which its block was entered. -/
theorem LooksAt.blockPlace?_eq {block : List Step} {p : List Nat} (h : LooksAt block p)
    (scope : Scope) : blockPlace? scope block p =
      (Place.scope scope).orInside (blockPlace? scope block) p.dropLast := by
  -- The blocks on the way to the look are the same with and without its last index.
  induction h generalizing scope with
  | look here look => rw [blockPlace?_of_core here look, Step.place?]; rfl
  | @space block inner index step names rest here opens inside ih =>
    rw [List.dropLast_cons_of_ne_nil inside.ne_nil, Place.orInside_of_ne_nil (by simp),
      blockPlace?_of_core here opens, blockPlace?_of_core here opens, Step.place?, Step.place?]
    congr 1
    funext opened
    rw [← ih, Place.orInside_of_ne_nil inside.ne_nil]
  | @resources block inner index step name options rest here opens inside ih =>
    rw [List.dropLast_cons_of_ne_nil inside.ne_nil, Place.orInside_of_ne_nil (by simp),
      blockPlace?_of_core here opens, blockPlace?_of_core here opens, Step.place?, Step.place?]
    congr 1
    funext chosen
    congr 1
    funext opened
    rw [← ih, Place.orInside_of_ne_nil inside.ne_nil]
  | @actions block inner index last step kind action here opens inside look =>
    change blockPlace? scope block [index, last] = blockPlace? scope block [index]
    rw [blockPlace?_of_core here opens, blockPlace?_of_core here opens, Step.place?, Step.place?]
    congr 1
    funext opened
    change actionsBlockPlace? opened inner [last] = some (.actions opened)
    rw [actionsBlockPlace?_cons, inside, Option.bind_some, ← ActionStep.place?_core, look]
    rfl

/-! ## Programs -/

namespace Program

variable {settings : Settings} {sink : Sink τ η} {table : τ} {program : List Step}

theorem entered_follows
    (h : .entered position place ∈ (Program.run settings sink table program).notes) :
    blockPlace? .root program position = some place ∧
      ∀ outer, outer <+: position → outer ≠ [] →
        ∃ b, .entered outer b ∈ (Program.run settings sink table program).notes := by
  rw [entered_mem_run_notes] at h
  obtain ⟨i, rest, hp, hplace, hout⟩ := block_follows .root [] 0 program position place h
  rw [Nat.zero_add, List.nil_append] at hp
  subst hp
  refine ⟨hplace, fun outer houter hne => ?_⟩
  cases outer with
  | nil => exact absurd rfl hne
  | cons j outer =>
    obtain ⟨rfl, hrest⟩ := List.cons_prefix_cons.mp houter
    obtain ⟨b, hb⟩ := hout outer hrest
    exact ⟨b, (entered_mem_run_notes ..).mpr (by simpa [course] using hb)⟩

/-- One position has one place. -/
theorem entered_unique {other : Place}
    (h : .entered position place ∈ (Program.run settings sink table program).notes)
    (hother : .entered position other ∈ (Program.run settings sink table program).notes) :
    place = other := by
  have htold := (entered_follows h).1
  rw [(entered_follows hother).1] at htold
  exact (Option.some.inj htold).symm

/-- A look finds the place that its block was entered at, and in the outermost block the root. -/
theorem looksAt_entered {index : Nat} (hlooks : LooksAt program (position ++ [index]))
    (h : .entered (position ++ [index]) place ∈ (Program.run settings sink table program).notes) :
    if position = [] then place = .scope .root
    else .entered position place ∈ (Program.run settings sink table program).notes := by
  obtain ⟨htold, hout⟩ := entered_follows h
  rw [hlooks.blockPlace?_eq, List.dropLast_concat, Place.orInside] at htold
  split
  next hnil =>
    rw [if_pos hnil] at htold
    exact (Option.some.inj htold).symm
  next hne =>
    rw [if_neg hne] at htold
    obtain ⟨b, hb⟩ := hout position (List.prefix_append _ _) hne
    have hsame : blockPlace? .root program position = some b := (entered_follows hb).1
    rw [htold] at hsame
    rwa [Option.some.inj hsame]

/-- Every scope that operations lead to is lawful. A program sees such scopes only, and it sees
one scope all through a block, whatever the steps of the block do and however they end. -/
theorem scopes_lawful (settings : Settings) (sink : Sink τ η) (table : τ)
    (program : List Step) :
    (∀ around scope, Reached (.running settings sink) around scope →
        scope.Lawful settings around) ∧
      (∀ position place,
        .entered position place ∈ (Program.run settings sink table program).notes →
          (∃ around scope, Reached (.running settings sink) around scope ∧ place.At scope) ∧
            (place ≠ .scope .root →
              Path.IsAbsolute (place.stem settings) ∧ Path.IsClosed (place.stem settings))) ∧
      (∀ position place other,
        .entered position place ∈ (Program.run settings sink table program).notes →
          .entered position other ∈ (Program.run settings sink table program).notes →
            place = other) ∧
      ∀ position index place, LooksAt program (position ++ [index]) →
        .entered (position ++ [index]) place ∈ (Program.run settings sink table program).notes →
          if position = [] then place = .scope .root
          else .entered position place ∈ (Program.run settings sink table program).notes := by
  refine ⟨fun around scope h => h.lawful settings, fun position place h => ?_,
    fun _ _ _ => entered_unique, fun _ _ _ => looksAt_entered⟩
  rw [entered_mem_run_notes] at h
  have hall := all_blockCourse (inherited_reached (.running settings sink) table)
    ⟨[], .root⟩ [] 0 program
  obtain ⟨scope, ⟨around, hreached⟩, hat⟩ := hall _ h
  refine ⟨⟨around, scope, hreached, hat⟩, fun hne => ?_⟩
  cases place with
  | scope s =>
    obtain rfl : s = scope := hat
    exact hreached.isSound.stem settings fun hroot => hne (congrArg Place.scope hroot)
  | actions a =>
    obtain rfl : scope = .resource a.toResourceScope := hat
    have hsound : a.toResourceScope.IsSound := hreached.isSound
    exact ActionScope.stem_of_isSound settings hsound.frame

/-- Faults are caught at three depths, and one namespace is drawn in place. -/
private def nest : List Step := [
  .attempt (.space ["admin"] [
    .resources "posts" { space := some "blog", keep := some [] } [
      .attempt (.resources "a/b" {} []),
      .space ["drawn", "in place"] [.resources "entries" { keep := some [] } [.look]],
      .actions .member [.attempt (.action "get" "a b"), .look],
      .look,
      .route "fetch" "/" (.shorthand "posts#index")]]),
  .look]

private def posts : ResourceScope where
  chain := ["admin", "blog"]
  frame := .top ⟨"posts", { controller := some "posts", keep := some [] }, ["admin", "blog"]⟩

private def entries : ResourceScope where
  chain := ["admin", "blog"]
  frame := .nested
    ⟨"entries", { controller := some "entries", keep := some [] }, ["admin", "blog"]⟩ posts.frame

private def counting : Sink Nat Unit := ⟨fun _ _ => (), fun n _ _ _ => n + 1⟩

theorem scopes_lawful_nest :
    (Scope.resource entries).Lawful .default [.resource posts, .space ["admin"], .root] ∧
      .entered [0, 0, 1, 0] (.scope (.resource entries)) ∈
        (Program.run .default counting 0 nest).notes ∧
      .entered [0, 0, 2] (.actions ⟨posts, .member⟩) ∈
        (Program.run .default counting 0 nest).notes ∧
      .entered [0, 0] (.scope (.resource posts)) ∈
        (Program.run .default counting 0 nest).notes := by
  obtain ⟨hlawful, -, -, hlooks⟩ := scopes_lawful .default counting 0 nest
  have hadmin : (Scope.root.enterSpace (.running .default counting) ["admin"] 0).outcome =
      .ok (.space ["admin"]) := rfl
  have hposts : ((Scope.space ["admin"]).enterResource (.running .default counting) "posts"
      { space := some "blog", keep := some [] } 0).outcome = .ok (.resource posts) := rfl
  have hdrawn : ((Scope.resource posts).enterSpace (.running .default counting)
      ["drawn", "in place"] 0).outcome = .ok (.resource posts) := rfl
  have hentries : ((Scope.resource posts).enterResource (.running .default counting) "entries"
      { keep := some [] } 0).outcome = .ok (.resource entries) := rfl
  have hreached := (((Reached.root.space rfl hadmin).resource hposts).inPlace rfl hdrawn).resource
    hentries
  have hnoted (i : Nat) {position : List Nat} {place : Place}
      (h : (course nest).deeds[i]? = some (.entered position place)) :
      .entered position place ∈ (Program.run .default counting 0 nest).notes :=
    (entered_mem_run_notes ..).mpr (List.mem_of_getElem? h)
  have hdeep : LooksAt nest [0, 0, 1, 0, 0] := by
    refine .space rfl rfl (.resources rfl rfl (.space rfl rfl (.resources rfl rfl ?_)))
    exact .look rfl rfl
  have hmember : LooksAt nest [0, 0, 2, 1] :=
    .space rfl rfl (.resources rfl rfl (.actions rfl rfl rfl rfl))
  have hlast : LooksAt nest [0, 0, 3] := .space rfl rfl (.resources rfl rfl (.look rfl rfl))
  refine ⟨hlawful _ _ hreached, ?_, ?_, ?_⟩
  · exact hlooks [0, 0, 1, 0] 0 _ hdeep (hnoted 6 rfl)
  · exact hlooks [0, 0, 2] 1 _ hmember (hnoted 12 rfl)
  · exact hlooks [0, 0] 3 _ hlast (hnoted 15 rfl)

end Program

end RoutePlan
