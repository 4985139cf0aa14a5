import RoutePlan.Proofs.Definition.Replay

/-! # Well-formed definitions

Which definitions compile can be told from their text: from every declaration and from whether
it stands inside a resource. What a definition that does not compile fails with can be told as
well, for its faults come in the order of the document.
-/

namespace RoutePlan

/-- Two halves, and a namespace, if there is one, that is a name. -/
def TargetSpec.WellFormed : TargetSpec → Prop
  | .shorthand written => IsShorthand written
  | .full t => IsHalf t.controller ∧ IsHalf t.action ∧ ∀ s ∈ t.space, IsSegment s

structure ResourceSpec.WellFormed (r : ResourceSpec) : Prop where
  keep : ∀ kept ∈ r.options.keep, ∀ s ∈ kept, ∃ a : Action, a.name = s
  drop : ∀ dropped ∈ r.options.drop, ∀ s ∈ dropped, ∃ a : Action, a.name = s
  name : IsSegment r.name
  space : ∀ s ∈ r.options.space, IsSegment s
  controller : ∀ s ∈ r.options.controller, IsSegment s
  param : ∀ s ∈ r.options.param, IsSegment s

mutual

/-- Whether a declaration may stand inside a resource, or outside of all. -/
def Declaration.WellFormed (inside : Prop) : Declaration → Prop
  | .route _ _ target => target.WellFormed
  | .space names block =>
    (¬inside → names ≠ [] ∧ ∀ s ∈ names, IsSegment s) ∧ WellFormedAll inside block
  | .resources name options block =>
    ResourceSpec.WellFormed ⟨name, options⟩ ∧ WellFormedAll True block
  | .actions _ actions => inside ∧ ∀ a ∈ actions, IsSegment a.2

def WellFormedAll (inside : Prop) : List Declaration → Prop
  | [] => True
  | d :: rest => d.WellFormed inside ∧ WellFormedAll inside rest

end

def Definition.WellFormed (d : Definition) : Prop := WellFormedAll False d.declarations

theorem TargetSpec.faults_eq_nil_iff (spec : TargetSpec) : spec.faults = [] ↔ spec.WellFormed := by
  cases spec with
  | shorthand written => exact demand_eq_nil_iff _ _
  | full t =>
    rw [faults, List.append_eq_nil_iff, demand_eq_nil_iff, nameFaults_eq_nil_iff, and_assoc]
    simp only [Option.mem_toList]
    exact Iff.rfl

theorem mem_map_name_iff (s : String) :
    s ∈ Action.all.map Action.name ↔ ∃ a : Action, a.name = s := by
  rw [List.mem_map]
  exact ⟨fun ⟨a, _, ha⟩ => ⟨a, ha⟩, fun ⟨a, ha⟩ => ⟨a, a.mem_all, ha⟩⟩

theorem mem_getD_nil_iff {names : Option (List String)} {s : String} :
    s ∈ names.getD [] ↔ ∃ list ∈ names, s ∈ list := by
  cases names <;> simp

theorem ResourceSpec.faults_eq_nil_iff (r : ResourceSpec) : r.faults = [] ↔ r.WellFormed := by
  rw [faults, List.append_eq_nil_iff, actionFaults_eq_nil_iff, nameFaults_eq_nil_iff]
  simp only [OptionSpec.actionNames, List.mem_append, mem_getD_nil_iff, mem_map_name_iff, names,
    List.mem_cons, Option.mem_toList]
  constructor
  · rintro ⟨hactions, hnames⟩
    refine ⟨?_, ?_, hnames _ (.inl rfl), ?_, ?_, ?_⟩
    · exact fun kept hk s hs => hactions s (.inl ⟨kept, hk, hs⟩)
    · exact fun dropped hd s hs => hactions s (.inr ⟨dropped, hd, hs⟩)
    · exact fun s hs => hnames s (.inr (.inl (.inl hs)))
    · exact fun s hs => hnames s (.inr (.inl (.inr hs)))
    · exact fun s hs => hnames s (.inr (.inr hs))
  · rintro ⟨hkeep, hdrop, hname, hspace, hcontroller, hparam⟩
    constructor
    · rintro s (⟨kept, hk, hs⟩ | ⟨dropped, hd, hs⟩)
      · exact hkeep kept hk s hs
      · exact hdrop dropped hd s hs
    · rintro s (rfl | (hs | hs) | hs)
      · exact hname
      · exact hspace s hs
      · exact hcontroller s hs
      · exact hparam s hs

theorem Occurrence.faults_space_eq_nil_iff (around : Nesting) (names : List String) :
    (⟨around, .space names⟩ : Occurrence).faults = [] ↔
      (¬around.resource?.isSome → names ≠ [] ∧ ∀ s ∈ names, IsSegment s) := by
  simp only [faults]
  by_cases hin : around.resource?.isSome
  · simp [hin]
  · by_cases hn : names = []
    · simp [hin, hn]
    · simp [hin, hn, nameFaults_eq_nil_iff]

theorem Occurrence.faults_actions_eq_nil_iff (around : Nesting) (kind : ActionKind)
    (actions : List (Verb × String)) :
    (⟨around, .actions kind actions⟩ : Occurrence).faults = [] ↔
      around.resource?.isSome ∧ ∀ a ∈ actions, IsSegment a.2 := by
  simp only [faults, List.append_eq_nil_iff, demand_eq_nil_iff, nameFaults_eq_nil_iff,
    List.forall_mem_map]

theorem faultsOf_cons_eq_nil_iff (o : Occurrence) (os : List Occurrence) :
    faultsOf (o :: os) = [] ↔ o.faults = [] ∧ faultsOf os = [] :=
  List.append_eq_nil_iff

mutual

theorem Declaration.faults_eq_nil_iff (around : Nesting) (d : Declaration) :
    faultsOf (d.occurrences around) = [] ↔ d.WellFormed around.resource?.isSome := by
  cases d with
  | route verb path target =>
    rw [Declaration.occurrences, faultsOf_singleton]
    exact target.faults_eq_nil_iff
  | space names block =>
    rw [Declaration.occurrences, faultsOf_cons_eq_nil_iff, Occurrence.faults_space_eq_nil_iff,
      Declaration.WellFormed, faultsAll_eq_nil_iff]
    exact Iff.rfl
  | resources name options block =>
    rw [Declaration.occurrences, faultsOf_cons_eq_nil_iff, Declaration.WellFormed,
      faultsAll_eq_nil_iff, ← ResourceSpec.faults_eq_nil_iff]
    simp [Nesting.resource?, Occurrence.faults]
  | actions kind actions =>
    rw [Declaration.occurrences, faultsOf_singleton, Occurrence.faults_actions_eq_nil_iff,
      Declaration.WellFormed]

theorem faultsAll_eq_nil_iff (around : Nesting) (ds : List Declaration) :
    faultsOf (occurrencesAll around ds) = [] ↔ WellFormedAll around.resource?.isSome ds := by
  cases ds with
  | nil => simp [occurrencesAll, faultsOf, WellFormedAll]
  | cons d rest =>
    rw [occurrencesAll, faultsOf_append, List.append_eq_nil_iff, d.faults_eq_nil_iff around,
      faultsAll_eq_nil_iff around rest, WellFormedAll]

end

namespace Definition

theorem faults_eq_nil_iff (d : Definition) : d.faults = [] ↔ d.WellFormed := by
  rw [faults, occurrences, faultsAll_eq_nil_iff]
  simp [Nesting.resource?, WellFormed]

instance (d : Definition) : Decidable d.WellFormed := decidable_of_iff _ d.faults_eq_nil_iff

/-- Compilation accepts the well-formed definitions and reports the first fault of the others.
Neither depends on the settings, nor on the table that a replay grows. -/
theorem compile_accepts (settings : Settings) (d : Definition) :
    ((∃ table, (d.compile settings).1 = .ok table) ↔ d.WellFormed) ∧
      (∀ f, (d.compile settings).1 = .error f ↔ d.faults.head? = some f) ∧
      ∀ (τ η ν : Type) (env : Surroundings τ η ν) (table : τ),
        (d.replay env .root table).outcome = verdict d.faults := by
  refine ⟨?_, compile_eq_error_iff settings d, fun τ η ν env table => ?_⟩
  · rw [← faults_eq_nil_iff]
    constructor
    · rintro ⟨table, h⟩
      exact ((compile_eq_ok_iff settings d table).mp h).1
    · intro h
      exact ⟨_, (compile_eq_ok_iff settings d _).mpr ⟨h, rfl⟩⟩
  · exact (makes_replay env d table).1

end Definition
end RoutePlan
