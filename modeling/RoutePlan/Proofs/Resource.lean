import RoutePlan.Proofs.Verdict
import RoutePlan.Resource

/-! # Resources as they are written

The options of a resource hold action names that have still to be read. What they allow can
be told from the names alone, and reading them fails exactly on a name that no action has.
-/

namespace RoutePlan

theorem Action.mem_all (a : Action) : a ∈ Action.all := by
  cases a <;> decide

theorem Action.name_injective {a b : Action} (h : a.name = b.name) : a = b := by
  revert h
  cases a <;> cases b <;> decide

/-- The action of a name, if it is one. -/
def Action.named? (s : String) : Option Action := Action.all.find? fun a => a.name = s

theorem Action.named?_eq_some_iff (s : String) (a : Action) :
    Action.named? s = some a ↔ a.name = s := by
  constructor
  · intro h
    simpa using List.find?_some h
  · rintro rfl
    cases h : Action.named? a.name with
    | none => simpa using List.find?_eq_none.mp h a a.mem_all
    | some b =>
      have hb : b.name = a.name := by simpa using List.find?_some h
      rw [Action.name_injective hb]

/-- Everything wrong with a list of action names. -/
def actionFaults (names : List String) : List Fault :=
  names.flatMap fun s => demand (s ∈ Action.all.map Action.name) (.unknownAction s)

theorem actionFaults_eq_nil_iff (names : List String) :
    actionFaults names = [] ↔ ∀ s ∈ names, s ∈ Action.all.map Action.name :=
  flatMap_demand_eq_nil_iff _ _ _

theorem actionFaults_cons (s : String) (rest : List String) :
    actionFaults (s :: rest) =
      demand (s ∈ Action.all.map Action.name) (.unknownAction s) ++ actionFaults rest :=
  List.flatMap_cons

theorem actionFaults_append (first second : List String) :
    actionFaults (first ++ second) = actionFaults first ++ actionFaults second :=
  List.flatMap_append

theorem Action.parse_eq (s : String) :
    Action.parse s = match Action.named? s with
      | some a => .ok a
      | none => .error (.unknownAction s) := rfl

theorem Action.parseAll_eq (names : List String) :
    Action.parseAll names =
      (verdict (actionFaults names)).map fun _ => names.filterMap Action.named? := by
  induction names with
  | nil => rfl
  | cons s rest ih =>
    change (Action.parse s >>= fun a => Action.parseAll rest >>= fun others =>
      Except.ok (a :: others)) = _
    rw [Action.parse_eq, ih, actionFaults_cons, verdict_append, List.filterMap_cons]
    cases h : Action.named? s with
    | none =>
      have hnot : ¬s ∈ Action.all.map Action.name := by
        rw [List.mem_map]
        rintro ⟨a, -, ha⟩
        rw [(Action.named?_eq_some_iff s a).mpr ha] at h
        cases h
      rw [demand, if_neg hnot]
      rfl
    | some a =>
      have hin : s ∈ Action.all.map Action.name :=
        List.mem_map.mpr ⟨a, a.mem_all, (Action.named?_eq_some_iff s a).mp h⟩
      rw [demand, if_pos hin]
      change (((verdict (actionFaults rest)).map fun _ => rest.filterMap Action.named?) >>=
        fun others => Except.ok (a :: others)) = (verdict (actionFaults rest)).map _
      cases verdict (actionFaults rest) <;> rfl

namespace OptionSpec

/-- The options with every action name read that can be. -/
def reading (o : OptionSpec) : ResourceOptions :=
  { controller := o.controller
    keep := o.keep.map (·.filterMap Action.named?)
    drop := o.drop.map (·.filterMap Action.named?)
    space := o.space
    param := o.param }

/-- The action names, in the order they are read. -/
def actionNames (o : OptionSpec) : List String := o.keep.getD [] ++ o.drop.getD []

theorem readActions_eq (names : Option (List String)) :
    readActions names = (verdict (actionFaults (names.getD []))).map fun _ =>
      names.map (·.filterMap Action.named?) := by
  cases names with
  | none => rfl
  | some names =>
    change (Action.parseAll names >>= fun as => Except.ok (some as)) = _
    rw [Action.parseAll_eq, Option.getD_some]
    cases verdict (actionFaults names) <;> rfl

theorem resolve_eq (o : OptionSpec) :
    o.resolve = (verdict (actionFaults o.actionNames)).map fun _ => o.reading := by
  change (readActions o.keep >>= fun keep => readActions o.drop >>= fun drop =>
    Except.ok ({ controller := o.controller, keep, drop, space := o.space, param := o.param } :
      ResourceOptions)) = _
  rw [readActions_eq, readActions_eq, actionNames, actionFaults_append, verdict_append]
  cases verdict (actionFaults (o.keep.getD [])) with
  | error f => rfl
  | ok u => cases verdict (actionFaults (o.drop.getD [])) <;> rfl

end OptionSpec

/-- A resource as it is written. -/
structure ResourceSpec where
  name : String
  options : OptionSpec
deriving DecidableEq, Repr

namespace ResourceSpec

def controller (r : ResourceSpec) : String := r.options.controller.getD r.name

def param (r : ResourceSpec) : String := r.options.param.getD (singular r.name)

/-- The actions whose names the options leave, in the order of `Action.all`. -/
def allowed (r : ResourceSpec) : List Action :=
  match r.options.keep, r.options.drop with
  | some kept, _ => Action.all.filter fun a => kept.contains a.name
  | none, some dropped => Action.all.filter fun a => !dropped.contains a.name
  | none, none => Action.all

theorem contains_filterMap_named? (names : List String) (a : Action) :
    (names.filterMap Action.named?).contains a = names.contains a.name := by
  rw [Bool.eq_iff_iff, List.contains_iff_mem, List.contains_iff_mem, List.mem_filterMap]
  constructor
  · rintro ⟨s, hs, ha⟩
    rwa [(Action.named?_eq_some_iff s a).mp ha]
  · exact fun h => ⟨a.name, h, (Action.named?_eq_some_iff _ a).mpr rfl⟩

theorem allowed_reading (r : ResourceSpec) : r.options.reading.allowed = r.allowed := by
  unfold ResourceOptions.allowed Action.choose allowed OptionSpec.reading
  cases r.options.keep with
  | some kept => simp only [Option.map_some, contains_filterMap_named?]
  | none =>
    cases r.options.drop with
    | some dropped => simp only [Option.map_some, Option.map_none, contains_filterMap_named?]
    | none => rfl

/-- The names of a resource, in the order they are looked at. -/
def names (r : ResourceSpec) : List String :=
  r.name :: (r.options.space.toList ++ r.options.controller.toList ++ r.options.param.toList)

/-- Everything wrong with a resource: its action names come before its own names. -/
def faults (r : ResourceSpec) : List Fault :=
  actionFaults r.options.actionNames ++ nameFaults .resources r.names

end ResourceSpec
end RoutePlan
