import RoutePlan.Proofs.Definition.Address
import RoutePlan.Proofs.Definition.Replay

/-! # Forests of resources

A block may hold resources only, with resources only inside them. Such a forest makes the
conventional routes of its resources, and every route has an address under the name of the
resource that makes it. What sets the addresses of siblings apart, and those of a resource from
those of the resources inside it, sets all addresses of the forest apart.
-/

namespace RoutePlan

open Pattern

/-- The names of the resources that a block declares itself. -/
def declaredNames : List Declaration → List String
  | [] => []
  | .resources name _ _ :: rest => name :: declaredNames rest
  | _ :: rest => declaredNames rest

/-- Resources only, at every depth, with different names in each block. The outermost resources
meet one condition, and those inside others a second. -/
inductive IsForest :
    (outermost nested : ResourceSpec → Prop) → List Declaration → Prop
  | nil {outermost nested : ResourceSpec → Prop} : IsForest outermost nested []
  | cons {outermost nested : ResourceSpec → Prop} {name : String} {options : OptionSpec}
      {block rest : List Declaration} (resource : outermost ⟨name, options⟩)
      (inside : IsForest nested nested block) (beside : IsForest outermost nested rest)
      (fresh : name ∉ declaredNames rest) :
      IsForest outermost nested (.resources name options block :: rest)

/-- A block inside one namespace after the other. -/
def enclose : List (List String) → List Declaration → List Declaration
  | [], block => block
  | names :: spaces, block => [.space names (enclose spaces block)]

def Nesting.inSpaces (around : Nesting) (spaces : List (List String)) : Nesting :=
  spaces.foldl .space around

def addressesAll (settings : Settings) (around : Nesting) (ds : List Declaration) :
    List Address :=
  (occurrencesAll around ds).flatMap (·.addresses settings)

variable {settings : Settings} {around : Nesting} {outermost nested fits : ResourceSpec → Prop}
  {ds : List Declaration}

theorem Nesting.resource?_inSpaces (spaces : List (List String)) :
    (around.inSpaces spaces).resource? = around.resource? := by
  induction spaces generalizing around with
  | nil => rfl
  | cons names spaces ih => exact ih

theorem Nesting.chain_inSpaces (spaces : List (List String)) (h : around.resource? = none) :
    (around.inSpaces spaces).chain = around.chain ++ spaces.flatten := by
  induction spaces generalizing around with
  | nil => rw [inSpaces, List.foldl_nil, List.flatten_nil, List.append_nil]
  | cons names spaces ih =>
    have hspace : (Nesting.space around names).chain = around.chain ++ names := by
      simp [chain, h]
    rw [List.flatten_cons, ← List.append_assoc, ← hspace]
    exact ih h

theorem addressesAll_resources (name : String) (options : OptionSpec)
    (block rest : List Declaration) :
    addressesAll settings around (.resources name options block :: rest) =
      (⟨around, .resources ⟨name, options⟩⟩ : Occurrence).addresses settings ++
        addressesAll settings (around.resources ⟨name, options⟩) block ++
        addressesAll settings around rest := by
  simp only [addressesAll, occurrencesAll, Declaration.occurrences, List.flatMap_append,
    List.flatMap_cons]

theorem faultsOf_resources (name : String) (options : OptionSpec)
    (block rest : List Declaration) :
    faultsOf (occurrencesAll around (.resources name options block :: rest)) =
      ResourceSpec.faults ⟨name, options⟩ ++
        faultsOf (occurrencesAll (around.resources ⟨name, options⟩) block) ++
        faultsOf (occurrencesAll around rest) := by
  simp only [faultsOf, occurrencesAll, Declaration.occurrences, List.flatMap_append,
    List.flatMap_cons]
  rfl

/-! ## Inside namespaces -/

/-- Namespace blocks register nothing themselves. -/
theorem occurrencesAll_enclose (settings : Settings) (around : Nesting)
    (spaces : List (List String)) (ds : List Declaration) :
    ∃ os : List Occurrence,
      (∀ o ∈ os, o.registrations settings = []) ∧ occurrencesAll around (enclose spaces ds) =
        os ++ occurrencesAll (around.inSpaces spaces) ds := by
  induction spaces generalizing around with
  | nil => exact ⟨[], fun _ hm => absurd hm List.not_mem_nil, rfl⟩
  | cons names spaces ih =>
    obtain ⟨os, hos, heq⟩ := ih (around.space names)
    refine ⟨⟨around, .space names⟩ :: os, List.forall_mem_cons.mpr ⟨rfl, hos⟩, ?_⟩
    rw [enclose, occurrencesAll, Declaration.occurrences, heq, occurrencesAll, List.append_nil]
    rfl

/-! ## Addresses of a forest -/

namespace IsForest

/-- A forest without faults holds resources without faults. -/
theorem faultless (h : IsForest outermost nested ds)
    (hf : faultsOf (occurrencesAll around ds) = []) :
    IsForest (fun r => outermost r ∧ r.faults = []) (fun r => nested r ∧ r.faults = []) ds := by
  induction h generalizing around with
  | nil => exact .nil
  | cons hr _ _ fresh ihinside ihbeside =>
    rw [faultsOf_resources, List.append_eq_nil_iff, List.append_eq_nil_iff] at hf
    exact .cons ⟨hr, hf.1.1⟩ (ihinside hf.1.2) (ihbeside hf.2) fresh

theorem registrations_eq (h : IsForest outermost nested ds) :
    ((occurrencesAll around ds).flatMap (·.registrations settings)).map
        (fun m => (m.verb, m.path)) =
      (addressesAll settings around ds).map fun a => (a.verb, a.path) := by
  induction h generalizing around with
  | nil => rfl
  | cons _ _ _ _ ihinside ihbeside =>
    rw [addressesAll_resources, List.map_append, List.map_append, ← ihinside, ← ihbeside,
      ← Occurrence.registrations_resources_address]
    simp only [occurrencesAll, Declaration.occurrences, List.flatMap_append, List.flatMap_cons,
      List.map_append]

end IsForest

/-- Every address of a resource and every address inside it lies under the resource's name. -/
theorem under_name {r : ResourceSpec} (hspace : around.resource? = none → r.options.space = none)
    {a : Address} (ha : a ∈ (⟨around, .resources r⟩ : Occurrence).addresses settings ∨
      ∃ tail, a.segments = (around.resources r).base settings ++ tail) :
    ∃ tail, a.segments = around.base settings ++ .ofName r.name :: tail := by
  rcases ha with ha | ⟨tail, htail⟩
  · obtain ⟨action, -, rfl⟩ := List.mem_map.mp ha
    refine ⟨action.segments settings, ?_⟩
    rw [Nesting.segments_resources settings hspace]
    exact List.append_assoc ..
  · refine ⟨r.passage settings :: tail, ?_⟩
    rw [htail, Nesting.base_resources settings hspace, List.append_assoc]
    rfl

/-- Every address of a forest lies under the name of one of the outermost resources. -/
theorem IsForest.located (h : IsForest outermost nested ds)
    (hspace : around.resource? = none → ∀ r, outermost r → r.options.space = none) {a : Address}
    (ha : a ∈ addressesAll settings around ds) :
    ∃ r tail, outermost r ∧ r.name ∈ declaredNames ds ∧
      a.segments = around.base settings ++ .ofName r.name :: tail := by
  induction h generalizing around with
  | nil => cases ha
  | @cons outermost nested name options block rest hr _ _ _ ihinside ihbeside =>
    have hnone : (around.resources ⟨name, options⟩).resource? = none →
        ∀ s, nested s → s.options.space = none := fun hnone => by cases hnone
    rw [addressesAll_resources, List.mem_append] at ha
    rcases ha with ha | ha
    · have hunder : _ ∨ ∃ tail,
          a.segments = (around.resources ⟨name, options⟩).base settings ++ tail :=
        (List.mem_append.mp ha).imp_right fun ha => by
        obtain ⟨_, _, -, -, htail⟩ := ihinside hnone ha
        exact ⟨_, htail⟩
      obtain ⟨tail, htail⟩ := under_name (fun hnone => hspace hnone _ hr) hunder
      exact ⟨_, tail, hr, List.mem_cons_self, htail⟩
    · obtain ⟨r, tail, hr, hname, htail⟩ := ihbeside hspace ha
      exact ⟨r, tail, hr, List.mem_cons_of_mem _ hname, htail⟩

/-- A relation that sets the addresses of a forest apart. It is asked about the conventional
routes of one resource, about those and an address inside a nested resource, and about
addresses under two names. -/
structure Separates (settings : Settings) (fits nested : ResourceSpec → Prop)
    (R : Address → Address → Prop) : Prop where
  own : ∀ base : List Segment, Action.all.Pairwise fun a b =>
    R ⟨a.verb, base ++ a.segments settings⟩ ⟨b.verb, base ++ b.segments settings⟩
  inside : ∀ (base : List Segment) (a : Action) (r child : ResourceSpec) (verb : Verb)
    (tail : List Segment), fits r → nested child →
    R ⟨a.verb, base ++ a.segments settings⟩
      ⟨verb, base ++ r.passage settings :: .ofName child.name :: tail⟩
  beside : ∀ (base : List Segment) (r s : ResourceSpec) (verb verb' : Verb)
    (tail tail' : List Segment), fits r → fits s → r.name ≠ s.name →
    R ⟨verb, base ++ .ofName r.name :: tail⟩ ⟨verb', base ++ .ofName s.name :: tail'⟩

theorem Separates.mono {nested' : ResourceSpec → Prop} {R : Address → Address → Prop}
    (hR : Separates settings fits nested R) (h : ∀ r, nested' r → nested r) :
    Separates settings fits nested' R :=
  { hR with
    inside := fun base a r child verb tail hr hchild =>
      hR.inside base a r child verb tail hr (h child hchild) }

theorem ResourceSpec.allowed_sublist (r : ResourceSpec) : r.allowed.Sublist Action.all := by
  unfold allowed
  split
  · exact List.filter_sublist
  · exact List.filter_sublist
  · exact List.Sublist.refl _

/-- What is set apart locally is set apart in the whole forest. -/
theorem IsForest.pairwise {R : Address → Address → Prop} (h : IsForest outermost nested ds)
    (hspace : around.resource? = none → ∀ r, outermost r → r.options.space = none)
    (houtermost : ∀ r, outermost r → fits r) (hnested : ∀ r, nested r → fits r)
    (hR : Separates settings fits nested R) :
    (addressesAll settings around ds).Pairwise R := by
  induction h generalizing around with
  | nil => exact List.Pairwise.nil
  | @cons outermost nested name options block rest hr inside beside fresh ihinside ihbeside =>
    let r : ResourceSpec := ⟨name, options⟩
    have hspace' : around.resource? = none → r.options.space = none :=
      fun hnone => hspace hnone r hr
    have hnone : (around.resources r).resource? = none →
        ∀ s, nested s → s.options.space = none := fun hnone => by cases hnone
    rw [addressesAll_resources, List.pairwise_append, List.pairwise_append]
    refine ⟨⟨?_, ihinside hnone hnested hnested hR, ?_⟩, ihbeside hspace houtermost hnested hR, ?_⟩
    · exact List.pairwise_map.mpr ((hR.own _).sublist r.allowed_sublist)
    · intro a ha b hb
      obtain ⟨action, -, rfl⟩ := List.mem_map.mp ha
      obtain ⟨child, tail, hchild, -, htail⟩ := inside.located hnone hb
      have hinside := hR.inside ((around.resources r).segments settings) action r child b.verb tail
        (houtermost r hr) hchild
      have hb : b = ⟨b.verb, (around.resources r).segments settings ++
          r.passage settings :: .ofName child.name :: tail⟩ := by
        rw [Address.ext_iff, htail, Nesting.base]
        exact ⟨rfl, List.append_assoc ..⟩
      rw [hb]
      exact hinside
    · intro a ha b hb
      have hunder : _ ∨ ∃ tail, a.segments = (around.resources r).base settings ++ tail :=
        (List.mem_append.mp ha).imp_right fun ha => by
        obtain ⟨_, _, -, -, htail⟩ := inside.located hnone ha
        exact ⟨_, htail⟩
      obtain ⟨tail, htail⟩ := under_name hspace' hunder
      obtain ⟨s, tail', hs, hname, htail'⟩ := beside.located hspace hb
      have hne : r.name ≠ s.name := fun (heq : name = s.name) => fresh (heq ▸ hname)
      have hbeside := hR.beside (around.base settings) r s a.verb b.verb tail tail'
        (houtermost r hr) (houtermost s hs) hne
      rw [← htail, ← htail'] at hbeside
      exact hbeside

/-- A forest inside namespaces that compiles makes the routes of its addresses. -/
theorem IsForest.compile_enclose (h : IsForest outermost nested ds) {spaces : List (List String)}
    {table : RouteTable}
    (hcompile : (Definition.compile settings ⟨enclose spaces ds⟩).1 = .ok table) :
    faultsOf (occurrencesAll (Nesting.root.inSpaces spaces) ds) = [] ∧
      table.routes.map (fun r => (r.verb, r.path)) =
        (addressesAll settings (Nesting.root.inSpaces spaces) ds).map
          fun a => (a.verb, a.path) := by
  obtain ⟨hf, rfl⟩ := (Definition.compile_eq_ok_iff settings _ table).mp hcompile
  obtain ⟨os, hos, heq⟩ := occurrencesAll_enclose settings .root spaces ds
  have hnone : os.flatMap (·.registrations settings) = [] :=
    List.flatMap_eq_nil_iff.mpr hos
  have hoccurrences : Definition.occurrences ⟨enclose spaces ds⟩ = _ := heq
  refine ⟨?_, ?_⟩
  · rw [Definition.faults, hoccurrences, faultsOf_append, List.append_eq_nil_iff] at hf
    exact hf.2
  · rw [Definition.table_draw, madeBy, untilFault_of_faultless hf, hoccurrences,
      List.flatMap_append, hnone, List.nil_append, ← h.registrations_eq, List.map_map]
    rfl

end RoutePlan
