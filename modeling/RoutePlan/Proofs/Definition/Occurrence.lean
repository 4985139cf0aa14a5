import RoutePlan.Definition
import RoutePlan.Proofs.Drawing.Registration
import RoutePlan.Proofs.Resource
import RoutePlan.Proofs.Target

/-! # Occurrences

A definition holds its declarations in document order, each inside the blocks around it.
What a declaration registers and what is wrong with it depend on nothing but these blocks:
not on its neighbours, not on its own block and not on the table. The functions here say how,
without scopes and without frames.
-/

namespace RoutePlan

/-- The blocks around a declaration, the innermost one last. -/
inductive Nesting where
  | root
  | space (outer : Nesting) (names : List String)
  | resources (outer : Nesting) (resource : ResourceSpec)
deriving DecidableEq, Repr

namespace Nesting

/-- The innermost resource around. Namespaces inside it do not hide it. -/
def resource? : Nesting → Option ResourceSpec
  | .root => none
  | .space outer _ => outer.resource?
  | .resources _ r => some r

/-- The namespace chain. A namespace block inside a resource adds nothing to it, a resource
adds the namespace among its options. -/
def chain : Nesting → List String
  | .root => []
  | .space outer names => if outer.resource?.isSome then outer.chain else outer.chain ++ names
  | .resources outer r => outer.chain ++ r.options.space.toList

/-- The path of the innermost resource, or the chain's path where there is none. A resource
inside another is reached through the other's id, and its own namespace takes no part. -/
def path (settings : Settings) : Nesting → String
  | .root => ""
  | .space outer names =>
    if outer.resource?.isSome then outer.path settings else Path.ofChain (outer.chain ++ names)
  | .resources outer r =>
    match outer.resource? with
    | none => Path.ofChain (outer.chain ++ r.options.space.toList) ++ "/" ++ r.name
    | some parent =>
      outer.path settings ++ settings.idSegment (parent.param ++ "_id") ++ "/" ++ r.name

end Nesting

/-- What a target puts between the scope's path and the route's own: its mount, behind one
slash, or else its namespace. -/
def Target.detour (t : Target) : String :=
  match t.mount, t.space with
  | some mount, _ => if mount.toList.head? = some '/' then mount else "/" ++ mount
  | none, some space => "/" ++ space
  | none, none => ""

/-- A declaration without its block. -/
inductive Head where
  | route (verb : Verb) (path : String) (target : TargetSpec)
  | space (names : List String)
  | resources (resource : ResourceSpec)
  | actions (kind : ActionKind) (actions : List (Verb × String))
deriving DecidableEq, Repr

/-- A declaration at its place. -/
structure Occurrence where
  around : Nesting
  head : Head
deriving DecidableEq, Repr

/-- What the extra actions of a block put behind the resource's path. -/
def ActionKind.segment (settings : Settings) : ActionKind → String
  | .member => settings.idSegment "id"
  | .collection => ""

namespace Occurrence

/-- Everything a declaration registers. -/
def registrations (settings : Settings) (o : Occurrence) : List Registration :=
  match o.head, o.around.resource? with
  | .route verb path target, none =>
    let t := target.reading
    [{ verb
       path := Path.join (Path.ofChain o.around.chain ++ t.detour) path
       target := ⟨t.controller, t.action, o.around.chain ++ t.space.toList⟩ }]
  | .route .., some _ => []
  | .space _, _ => []
  | .resources r, _ =>
    let within := o.around.resources r
    r.allowed.map fun a =>
      { verb := a.verb
        path := within.path settings ++ a.suffix settings
        target := ⟨r.controller, a.name, within.chain⟩ }
  | .actions _ _, none => []
  | .actions kind actions, some r =>
    actions.map fun (verb, name) =>
      { verb
        path := o.around.path settings ++ kind.segment settings ++ "/" ++ name
        target := ⟨r.controller, name, o.around.chain⟩ }

def routes (settings : Settings) (o : Occurrence) : List Route :=
  (o.registrations settings).map Registration.route

/-- Everything wrong with a declaration, in the order in which it is looked at. -/
def faults (o : Occurrence) : List Fault :=
  match o.head with
  | .route _ _ target => target.faults
  | .space names =>
    if o.around.resource?.isSome then []
    else if names = [] then [.invalidName .space ""]
    else nameFaults .space names
  | .resources r => r.faults
  | .actions kind actions =>
    demand (o.around.resource?.isSome) (.misplaced kind.construct) ++
      nameFaults kind.construct (actions.map (·.2))

/-- The actions before the first whose name is none. -/
def namedActions (actions : List (Verb × String)) : List (Verb × String) :=
  actions.takeWhile fun a => IsSegment a.2

/-- What a faulty declaration amounts to before its first fault: nothing, but for the actions
of a member or collection block in its place, of which the ones before the fault count. -/
def salvage (o : Occurrence) : List Occurrence :=
  match o.head, o.around.resource? with
  | .actions kind actions, some _ => [⟨o.around, .actions kind (namedActions actions)⟩]
  | _, _ => []

theorem namedActions_cons {name : String} (verb : Verb) (h : IsSegment name)
    (rest : List (Verb × String)) :
    namedActions ((verb, name) :: rest) = (verb, name) :: namedActions rest :=
  List.takeWhile_cons_of_pos (by simpa using h)

theorem namedActions_cons_of_not {name : String} (verb : Verb) (h : ¬IsSegment name)
    (rest : List (Verb × String)) : namedActions ((verb, name) :: rest) = [] :=
  List.takeWhile_cons_of_neg (by simpa using h)

theorem namedActions_eq_self {actions : List (Verb × String)}
    (h : ∀ s ∈ actions.map (·.2), IsSegment s) : namedActions actions = actions := by
  induction actions with
  | nil => rfl
  | cons a rest ih =>
    rw [namedActions_cons a.1 (h a.2 (by simp)), ih fun s hs => h s (List.mem_cons_of_mem _ hs)]

/-- The salvaged actions are all named. -/
theorem isSegment_of_mem_namedActions (actions : List (Verb × String)) :
    ∀ s ∈ (namedActions actions).map (·.2), IsSegment s := by
  intro s hs
  obtain ⟨a, ha, rfl⟩ := List.mem_map.mp hs
  simpa using List.all_eq_true.mp List.all_takeWhile a ha

end Occurrence

mutual

/-- A declaration and the ones in its block, in document order. -/
def Declaration.occurrences (around : Nesting) : Declaration → List Occurrence
  | .route verb path target => [⟨around, .route verb path target⟩]
  | .space names block => ⟨around, .space names⟩ :: occurrencesAll (around.space names) block
  | .resources name options block =>
    ⟨around, .resources ⟨name, options⟩⟩ :: occurrencesAll (around.resources ⟨name, options⟩) block
  | .actions kind actions => [⟨around, .actions kind actions⟩]

def occurrencesAll (around : Nesting) : List Declaration → List Occurrence
  | [] => []
  | d :: rest => d.occurrences around ++ occurrencesAll around rest

end

def Definition.occurrences (d : Definition) : List Occurrence := occurrencesAll .root d.declarations

/-- Everything wrong with several declarations. -/
def faultsOf (os : List Occurrence) : List Fault := os.flatMap Occurrence.faults

theorem faultsOf_singleton (o : Occurrence) : faultsOf [o] = o.faults := List.flatMap_singleton ..

theorem faultsOf_append (first second : List Occurrence) :
    faultsOf (first ++ second) = faultsOf first ++ faultsOf second :=
  List.flatMap_append

def Definition.faults (d : Definition) : List Fault := faultsOf d.occurrences

/-- The declarations up to the first fault, with what is left of the faulty one. -/
def untilFault : List Occurrence → List Occurrence
  | [] => []
  | o :: rest => if o.faults = [] then o :: untilFault rest else o.salvage

theorem untilFault_of_faultless {os : List Occurrence} (h : faultsOf os = []) :
    untilFault os = os := by
  induction os with
  | nil => rfl
  | cons o rest ih =>
    obtain ⟨ho, hrest⟩ := List.append_eq_nil_iff.mp h
    rw [untilFault, if_pos ho, ih hrest]

/-- Nothing after a fault plays a part. -/
theorem untilFault_append_of_faulty {first : List Occurrence} (second : List Occurrence)
    (h : faultsOf first ≠ []) : untilFault (first ++ second) = untilFault first := by
  induction first with
  | nil => exact absurd rfl h
  | cons o rest ih =>
    rw [List.cons_append, untilFault, untilFault]
    by_cases ho : o.faults = []
    · have hrest : faultsOf rest ≠ [] := fun hr => h (List.append_eq_nil_iff.mpr ⟨ho, hr⟩)
      rw [if_pos ho, if_pos ho, ih hrest]
    · rw [if_neg ho, if_neg ho]

theorem untilFault_append_of_faultless {first : List Occurrence} (second : List Occurrence)
    (h : faultsOf first = []) : untilFault (first ++ second) = first ++ untilFault second := by
  induction first with
  | nil => rfl
  | cons o rest ih =>
    obtain ⟨ho, hrest⟩ := List.append_eq_nil_iff.mp h
    rw [List.cons_append, untilFault, if_pos ho, ih hrest, List.cons_append]

/-- Everything several declarations register up to the first fault. -/
def madeBy (settings : Settings) (os : List Occurrence) : List Registration :=
  (untilFault os).flatMap (·.registrations settings)

theorem map_route_madeBy (settings : Settings) (os : List Occurrence) :
    (madeBy settings os).map Registration.route =
      (untilFault os).flatMap (·.routes settings) := by
  rw [madeBy, List.map_flatMap]
  rfl

end RoutePlan
