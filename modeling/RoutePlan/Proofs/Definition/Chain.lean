import RoutePlan.Proofs.Definition.Legible
import RoutePlan.Proofs.Singular

/-! # Chains of resources

In a chain every resource stands inside the one before it. The way to a resource of the chain
leads through the ids of all resources before it, and every route of the chain lies behind the
name of the resource that makes it.
-/

namespace RoutePlan

open Pattern

/-- A resource of a chain with its member blocks. -/
structure Link where
  resource : ResourceSpec
  blocks : List (List (Verb × String)) := []
deriving DecidableEq, Repr

/-- Each resource inside the one before it, after the member blocks of that one. -/
def nest : List Link → List Declaration
  | [] => []
  | l :: links => [.resources l.resource.name l.resource.options
      (l.blocks.map (Declaration.actions .member) ++ nest links)]

def Nesting.through (around : Nesting) (links : List Link) : Nesting :=
  links.foldl (fun around l => around.resources l.resource) around

/-- The segments on the way through some resources of a chain. -/
def passages (settings : Settings) (links : List Link) : List Segment :=
  links.flatMap fun l => [.ofName l.resource.name, l.resource.passage settings]

/-- The routes of a link, by what they put behind its name. -/
inductive Link.Makes (settings : Settings) (l : Link) : Verb → List Segment → Prop
  | conventional {a : Action} (allowed : a ∈ l.resource.allowed) :
    Makes settings l a.verb (a.segments settings)
  | member {verb : Verb} {name : String} (declared : (verb, name) ∈ l.blocks.flatten) :
    Makes settings l verb [settings.idPart "id", .ofName name]

variable {settings : Settings} {around : Nesting} {links before : List Link} {l : Link}

/-! ## Occurrences -/

theorem occurrencesAll_append (around : Nesting) (ds es : List Declaration) :
    occurrencesAll around (ds ++ es) = occurrencesAll around ds ++ occurrencesAll around es := by
  induction ds with
  | nil => rfl
  | cons d ds ih => rw [List.cons_append, occurrencesAll, occurrencesAll, ih, List.append_assoc]

theorem occurrencesAll_blocks (around : Nesting) (blocks : List (List (Verb × String))) :
    occurrencesAll around (blocks.map (Declaration.actions .member)) =
      blocks.map fun b => ⟨around, .actions .member b⟩ := by
  induction blocks with
  | nil => rfl
  | cons b blocks ih =>
    rw [List.map_cons, occurrencesAll, ih]
    rfl

theorem occurrencesAll_nest (around : Nesting) (l : Link) (links : List Link) :
    occurrencesAll around (nest (l :: links)) =
      ⟨around, .resources l.resource⟩ ::
        (l.blocks.map (fun b => ⟨around.resources l.resource, .actions .member b⟩) ++
          occurrencesAll (around.resources l.resource) (nest links)) := by
  rw [nest, occurrencesAll, Declaration.occurrences, occurrencesAll_append, occurrencesAll_blocks,
    occurrencesAll, List.append_nil]

/-- Every declaration of a chain is one of its resources or a member block of one. -/
theorem mem_occurrencesAll_nest {o : Occurrence} :
    o ∈ occurrencesAll around (nest links) ↔
      ∃ before l after, links = before ++ l :: after ∧
        (o = ⟨around.through before, .resources l.resource⟩ ∨
          ∃ b ∈ l.blocks,
            o = ⟨(around.through before).resources l.resource, .actions .member b⟩) := by
  induction links generalizing around with
  | nil => simp [nest, occurrencesAll]
  | cons first links ih =>
    rw [occurrencesAll_nest, List.mem_cons, List.mem_append, List.mem_map, ih]
    constructor
    · rintro (rfl | ⟨b, hb, rfl⟩ | ⟨before, l, after, rfl, ho⟩)
      · exact ⟨[], first, links, rfl, .inl rfl⟩
      · exact ⟨[], first, links, rfl, .inr ⟨b, hb, rfl⟩⟩
      · exact ⟨first :: before, l, after, rfl, ho⟩
    · rintro ⟨before, l, after, hlinks, ho⟩
      cases before with
      | nil =>
        obtain ⟨rfl, rfl⟩ := List.cons.inj hlinks
        exact ho.imp_right fun ⟨b, hb, ho⟩ => .inl ⟨b, hb, ho.symm⟩
      | cons first' before =>
        obtain ⟨rfl, rfl⟩ := List.cons.inj hlinks
        exact .inr (.inr ⟨before, l, after, rfl, ho⟩)

/-- A chain without faults is made of resources and actions without faults. -/
theorem Link.faultless (h : faultsOf (occurrencesAll around (nest links)) = []) (hl : l ∈ links) :
    l.resource.faults = [] ∧ ∀ a ∈ l.blocks.flatten, IsSegment a.2 := by
  have hall : ∀ o ∈ occurrencesAll around (nest links), o.faults = [] :=
    List.flatMap_eq_nil_iff.mp h
  obtain ⟨before, after, rfl⟩ := List.append_of_mem hl
  refine ⟨hall _ (mem_occurrencesAll_nest.mpr ⟨before, l, after, rfl, .inl rfl⟩), fun a ha => ?_⟩
  obtain ⟨b, hb, hab⟩ := List.mem_flatten.mp ha
  have hblock := hall _ (mem_occurrencesAll_nest.mpr ⟨before, l, after, rfl, .inr ⟨b, hb, rfl⟩⟩)
  exact ((Occurrence.faults_actions_eq_nil_iff _ _ _).mp hblock).2 a hab

theorem Link.isLegible (h : faultsOf (occurrencesAll around (nest links)) = []) (hl : l ∈ links)
    (hcolon : l.resource.name.toList.head? ≠ some ':') (hparam : IsIdent l.resource.param.toList) :
    l.resource.IsLegible :=
  ⟨(ResourceSpec.isSegment_of_faultless (faultless h hl).1).1, hcolon, hparam⟩

/-! ## Addresses -/

/-- The first resource of a chain is the only one whose namespace could play a part. -/
theorem Nesting.resource?_through (around : Nesting) (hne : before ≠ []) :
    (around.through before).resource? ≠ none := by
  induction before generalizing around with
  | nil => exact absurd rfl hne
  | cons first before ih =>
    cases before with
    | nil => simp [through, resource?]
    | cons second before => exact ih (around.resources first.resource) (by simp)

theorem Nesting.base_through
    (hspace : around.resource? = none → ∀ l ∈ before.head?, l.resource.options.space = none) :
    (around.through before).base settings = around.base settings ++ passages settings before := by
  induction before generalizing around with
  | nil => exact (List.append_nil _).symm
  | cons first before ih =>
    have hfirst : around.resource? = none → first.resource.options.space = none :=
      fun hnone => hspace hnone first rfl
    have hinside : (around.resources first.resource).resource? = none →
        ∀ l ∈ before.head?, l.resource.options.space = none := fun hnone => by cases hnone
    rw [passages, List.flatMap_cons, ← List.append_assoc, ← base_resources settings hfirst]
    exact ih hinside

theorem Nesting.segments_through {after : List Link}
    (hspace : ∀ first ∈ (before ++ l :: after).head?, first.resource.options.space = none) :
    ((Nesting.root.through before).resources l.resource).segments settings =
      passages settings before ++ [.ofName l.resource.name] := by
  have hlast : (Nesting.root.through before).resource? = none →
      l.resource.options.space = none := by
    intro hnone
    cases before with
    | nil => exact hspace l rfl
    | cons first before => exact absurd hnone (resource?_through .root (by simp))
  have hbefore : Nesting.root.resource? = none →
      ∀ l ∈ before.head?, l.resource.options.space = none := by
    intro _ first hfirst
    cases before with
    | nil => cases hfirst
    | cons _ _ => exact hspace first hfirst
  rw [segments_resources settings hlast, base_through hbefore]
  rfl

theorem names_passages (settings : Settings) (links : List Link) :
    ((passages settings links).filterMap fun s => s.name?.map String.ofList) =
      links.map fun l => l.resource.param ++ "_id" := by
  induction links with
  | nil => rfl
  | cons l links ih =>
    have hfirst : passages settings (l :: links) =
        .ofName l.resource.name :: l.resource.passage settings :: passages settings links := rfl
    rw [hfirst, List.map_cons, ← ih]
    simp [Segment.ofName, ResourceSpec.passage, Settings.idPart, Segment.name?]

theorem isMeant_passages {links : List Link} (h : ∀ l ∈ links, l.resource.IsLegible) :
    ∀ s ∈ passages settings links, s.IsMeant settings := by
  intro s hs
  obtain ⟨l, hl, hs⟩ := List.mem_flatMap.mp hs
  rcases List.mem_pair.mp hs with rfl | rfl
  · exact (h l hl).isMeant_name
  · exact (h l hl).isMeant_passage

/-- Every route of a chain lies behind the name of a resource of the chain. -/
theorem mem_routes_nest {table : RouteTable}
    (hspace : ∀ l ∈ links.head?, l.resource.options.space = none)
    (h : (Definition.compile settings ⟨nest links⟩).1 = .ok table) {route : Route}
    (hroute : route ∈ table.routes) :
    ∃ before l after tail, links = before ++ l :: after ∧ l.Makes settings route.verb tail ∧
      route.path = String.ofList
        (written (passages settings before ++ .ofName l.resource.name :: tail)) := by
  obtain ⟨hf, rfl⟩ := (Definition.compile_eq_ok_iff settings _ table).mp h
  rw [Definition.table_draw, madeBy, untilFault_of_faultless hf] at hroute
  obtain ⟨m, hmade, rfl⟩ := List.mem_map.mp hroute
  obtain ⟨o, hmem, hm⟩ := List.mem_flatMap.mp hmade
  obtain ⟨before, l, after, rfl, ho⟩ := mem_occurrencesAll_nest.mp hmem
  have hsegments := @Nesting.segments_through settings before l after hspace
  have hkey := List.mem_map_of_mem (f := fun m : Registration => (m.verb, m.path)) hm
  rcases ho with rfl | ⟨b, hb, rfl⟩
  · rw [Occurrence.registrations_resources_address, List.mem_map] at hkey
    obtain ⟨a, ha, hkey⟩ := hkey
    obtain ⟨action, haction, rfl⟩ := List.mem_map.mp ha
    obtain ⟨hverb, hpath⟩ := Prod.mk.inj hkey
    refine ⟨before, l, after, action.segments settings, rfl, ?_, ?_⟩
    · rw [show m.route.verb = action.verb from hverb.symm]
      exact .conventional haction
    · rw [hsegments, List.append_assoc] at hpath
      exact hpath.symm
  · rw [Occurrence.registrations_actions_address, List.mem_map] at hkey
    obtain ⟨a, ha, hkey⟩ := hkey
    obtain ⟨⟨verb, name⟩, hname, rfl⟩ := List.mem_map.mp ha
    obtain ⟨hverb, hpath⟩ := Prod.mk.inj hkey
    refine ⟨before, l, after, [settings.idPart "id", .ofName name], rfl, ?_, ?_⟩
    · rw [show m.route.verb = verb from hverb.symm]
      exact .member (List.mem_flatten.mpr ⟨b, hb, hname⟩)
    · rw [hsegments] at hpath
      simpa [ActionKind.segments, Address.path, Registration.route] using hpath.symm

end RoutePlan
