import RoutePlan.Name

/-! # Verdicts

A check can be read in two ways: as the list of everything it finds wrong, in the order it
looks, and as a step that ends at the first finding. The verdict of a list of faults is the
second reading of the first. Checks that follow one another add up their lists.
-/

namespace RoutePlan

/-- The first of several faults decides. -/
def verdict : List Fault → Except Fault Unit
  | [] => .ok ()
  | f :: _ => .error f

@[simp] theorem verdict_nil : verdict [] = .ok () := rfl

@[simp] theorem verdict_cons (f : Fault) (faults : List Fault) :
    verdict (f :: faults) = .error f := rfl

theorem verdict_append (first second : List Fault) :
    verdict (first ++ second) = (verdict first).bind fun _ => verdict second := by
  cases first with
  | nil => rfl
  | cons f rest => rfl

theorem verdict_eq_error_iff (faults : List Fault) (f : Fault) :
    verdict faults = .error f ↔ faults.head? = some f := by
  cases faults with
  | nil => simp
  | cons g rest => simp

/-- The fault of a condition that does not hold. -/
def demand (holds : Prop) [Decidable holds] (f : Fault) : List Fault := if holds then [] else [f]

theorem demand_eq_nil_iff (holds : Prop) [Decidable holds] (f : Fault) :
    demand holds f = [] ↔ holds := by
  unfold demand
  split <;> simp_all

theorem flatMap_demand_eq_nil_iff {α : Type} (holds : α → Prop) [DecidablePred holds]
    (fault : α → Fault) (items : List α) :
    (items.flatMap fun a => demand (holds a) (fault a)) = [] ↔ ∀ a ∈ items, holds a := by
  simp only [List.flatMap_eq_nil_iff, demand_eq_nil_iff]

/-! ## Names -/

/-- A text that fills one path segment: not empty, without slash and blank. -/
def IsSegment (s : String) : Prop := s ≠ "" ∧ ∀ c ∈ s.toList, c ≠ '/' ∧ ¬Text.isBlank c

theorem isName_iff (s : String) : isName s = true ↔ IsSegment s := by
  simp [isName, isNameChar, IsSegment]

instance (s : String) : Decidable (IsSegment s) := decidable_of_iff _ (isName_iff s)

theorem checkName_eq_verdict (construct : Construct) (s : String) :
    checkName construct s = verdict (demand (IsSegment s) (.invalidName construct s)) := by
  unfold checkName demand
  by_cases h : IsSegment s
  · rw [if_pos ((isName_iff s).mpr h), if_pos h, verdict_nil]
  · rw [if_neg (fun hn => h ((isName_iff s).mp hn)), if_neg h, verdict_cons]

/-- Everything wrong with a list of names. -/
def nameFaults (construct : Construct) (names : List String) : List Fault :=
  names.flatMap fun s => demand (IsSegment s) (.invalidName construct s)

theorem nameFaults_cons (construct : Construct) (s : String) (rest : List String) :
    nameFaults construct (s :: rest) =
      demand (IsSegment s) (.invalidName construct s) ++ nameFaults construct rest :=
  List.flatMap_cons

theorem nameFaults_append (construct : Construct) (first second : List String) :
    nameFaults construct (first ++ second) =
      nameFaults construct first ++ nameFaults construct second :=
  List.flatMap_append

theorem nameFaults_eq_nil_iff (construct : Construct) (names : List String) :
    nameFaults construct names = [] ↔ ∀ s ∈ names, IsSegment s :=
  flatMap_demand_eq_nil_iff _ _ _

/-- The first name that is none is the first fault. -/
theorem head?_nameFaults (construct : Construct) (names : List String) :
    (nameFaults construct names).head? =
      (names.find? fun s => ¬IsSegment s).map (.invalidName construct) := by
  induction names with
  | nil => rfl
  | cons s rest ih =>
    rw [nameFaults_cons, List.find?_cons]
    by_cases hs : IsSegment s
    · simp [demand, hs, ih]
    · simp [demand, hs]

theorem checkNames_eq_verdict (construct : Construct) (names : List String) :
    checkNames construct names = verdict (nameFaults construct names) := by
  induction names with
  | nil => rfl
  | cons s rest ih =>
    rw [nameFaults_cons, verdict_append, ← checkName_eq_verdict]
    change (checkName construct s >>= fun _ => checkNames construct rest) = _
    rw [ih]
    rfl

end RoutePlan
