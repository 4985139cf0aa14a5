import RoutePlan.Proofs.Verdict
import RoutePlan.Target

/-! # The grammar of targets

A shorthand is two halves around one `#`, and the split is unique, since neither half holds
the `#`. A target given in parts obeys the same grammar, so each way of writing a target
has one reading and one list of faults.
-/

namespace RoutePlan

/-- A controller or an action: not empty, without `#` and blank. -/
def IsHalf (s : String) : Prop := s ≠ "" ∧ ∀ c ∈ s.toList, c ≠ '#' ∧ ¬Text.isBlank c

def IsShorthand (s : String) : Prop :=
  ∃ controller action, s = controller ++ "#" ++ action ∧ IsHalf controller ∧ IsHalf action

namespace Target

theorem isHalf_iff (s : String) :
    IsHalf s ↔ s.toList ≠ [] ∧ ∀ c ∈ s.toList, isHalfChar c = true := by
  simp [IsHalf, isHalfChar]

theorem isHalf_ofList_iff (s : List Char) :
    IsHalf (String.ofList s) ↔ s ≠ [] ∧ ∀ c ∈ s, isHalfChar c = true := by
  rw [isHalf_iff, String.toList_ofList]

/-- The characters before the first `#` are the controller, whatever follows. -/
theorem takeWhile_isHalfChar {controller : List Char} (action : List Char)
    (h : ∀ c ∈ controller, isHalfChar c = true) :
    (controller ++ '#' :: action).takeWhile isHalfChar = controller := by
  rw [List.takeWhile_append_of_pos h, List.takeWhile_cons_of_neg (by decide), List.append_nil]

theorem dropWhile_isHalfChar {controller : List Char} (action : List Char)
    (h : ∀ c ∈ controller, isHalfChar c = true) :
    (controller ++ '#' :: action).dropWhile isHalfChar = '#' :: action := by
  rw [List.dropWhile_append_of_pos h, List.dropWhile_cons_of_neg (by decide)]

theorem halves?_eq_some_iff (written controller action : List Char) :
    halves? written = some (controller, action) ↔
      written = controller ++ '#' :: action ∧
        IsHalf (String.ofList controller) ∧ IsHalf (String.ofList action) := by
  rw [isHalf_ofList_iff, isHalf_ofList_iff]
  constructor
  · intro h
    have hsplit := List.takeWhile_append_dropWhile (p := isHalfChar) (l := written)
    have hhalf : ∀ c ∈ written.takeWhile isHalfChar, isHalfChar c = true :=
      List.all_eq_true.mp List.all_takeWhile
    simp only [halves?] at h
    split at h
    · rename_i rest heq
      split at h
      · cases h
      · simp only [Option.some.injEq, Prod.mk.injEq] at h
        obtain ⟨rfl, rfl⟩ := h
        rw [heq] at hsplit
        rename_i hok
        simp only [Bool.not_eq_true, Bool.or_eq_false_iff, Bool.not_eq_false',
          List.isEmpty_eq_false_iff, List.all_eq_true] at hok
        exact ⟨hsplit.symm, ⟨hok.1.1, hhalf⟩, hok.1.2, hok.2⟩
    · cases h
  · rintro ⟨rfl, ⟨hc, hcs⟩, ha, has⟩
    simp only [halves?]
    rw [dropWhile_isHalfChar action hcs, takeWhile_isHalfChar action hcs]
    simpa [hc, ha] using has

/-- The grammar leaves no choice of the halves. -/
theorem halves?_append (controller action : String) (hc : IsHalf controller)
    (ha : IsHalf action) :
    halves? (controller ++ "#" ++ action).toList = some (controller.toList, action.toList) := by
  rw [halves?_eq_some_iff]
  simp [hc, ha]

theorem isSome_halves?_iff (s : String) : (halves? s.toList).isSome = true ↔ IsShorthand s := by
  rw [Option.isSome_iff_exists]
  constructor
  · rintro ⟨⟨controller, action⟩, h⟩
    obtain ⟨hs, hc, ha⟩ := (halves?_eq_some_iff _ _ _).mp h
    refine ⟨String.ofList controller, String.ofList action, ?_, hc, ha⟩
    apply String.toList_injective
    simp [hs]
  · rintro ⟨controller, action, rfl, hc, ha⟩
    exact ⟨_, halves?_append controller action hc ha⟩

/-- Two splits of one text at a `#` agree if neither side of the first holds another. -/
theorem eq_of_append_hash_eq {left right controller action : List Char} (hl : '#' ∉ left)
    (hr : '#' ∉ right) (h : controller ++ '#' :: action = left ++ '#' :: right) :
    controller = left ∧ action = right := by
  rcases List.append_eq_append_iff.mp h with ⟨t, ht, heq⟩ | ⟨t, ht, heq⟩
  · cases t with
    | nil => simp_all
    | cons c t => simp_all
  · cases t with
    | nil => simp_all
    | cons c t => simp_all

/-- No `#` can hide in a part: parts that make a shorthand are its halves. -/
theorem isShorthand_append_iff (controller action : String) :
    IsShorthand (controller ++ "#" ++ action) ↔ IsHalf controller ∧ IsHalf action := by
  constructor
  · rintro ⟨left, right, heq, hl, hr⟩
    have hsplit : controller.toList = left.toList ∧ action.toList = right.toList := by
      apply eq_of_append_hash_eq
      · exact fun h => (hl.2 _ h).1 rfl
      · exact fun h => (hr.2 _ h).1 rfl
      · simpa using congrArg String.toList heq
    rw [String.toList_injective hsplit.1, String.toList_injective hsplit.2]
    exact ⟨hl, hr⟩
  · exact fun h => ⟨controller, action, rfl, h⟩

end Target

instance (s : String) : Decidable (IsHalf s) :=
  decidable_of_iff (s.toList ≠ [] ∧ s.toList.all Target.isHalfChar = true) <| by
    rw [Target.isHalf_iff, List.all_eq_true]

instance (s : String) : Decidable (IsShorthand s) :=
  decidable_of_iff _ (Target.isSome_halves?_iff s)

namespace TargetSpec

/-- What a target says, if it says anything: a shorthand is cut at its first `#`. -/
def reading : TargetSpec → Target
  | .shorthand written =>
    { controller := String.ofList (written.toList.takeWhile (· != '#'))
      action := String.ofList ((written.toList.dropWhile (· != '#')).drop 1) }
  | .full target => target

/-- Everything wrong with a target. A namespace is looked at after the two halves. -/
def faults : TargetSpec → List Fault
  | .shorthand written => demand (IsShorthand written) (.malformedTarget written)
  | .full t =>
    demand (IsHalf t.controller ∧ IsHalf t.action)
        (.malformedTarget (t.controller ++ "#" ++ t.action)) ++
      nameFaults .space t.space.toList

/-- A shorthand is cut at its first `#`; more of them may stand in the action. -/
theorem reading_append_hash {controller : String} (action : String)
    (h : '#' ∉ controller.toList) :
    reading (.shorthand (controller ++ "#" ++ action)) = { controller, action } := by
  have hne : ∀ c ∈ controller.toList, (c != '#') = true := by
    intro c hc
    rw [bne_iff_ne]
    exact fun heq => h (heq ▸ hc)
  have htext : (controller ++ "#" ++ action).toList =
      controller.toList ++ '#' :: action.toList := by
    simp
  simp only [reading, htext]
  rw [List.takeWhile_append_of_pos hne, List.dropWhile_append_of_pos hne]
  simp

theorem reading_shorthand (controller action : String) (hc : IsHalf controller) :
    reading (.shorthand (controller ++ "#" ++ action)) = { controller, action } :=
  reading_append_hash action fun hm => (hc.2 _ hm).1 rfl

theorem parse_eq (written : String) :
    Target.parse written =
      (verdict (faults (.shorthand written))).map fun _ => reading (.shorthand written) := by
  simp only [Target.parse, faults, demand]
  split
  · rename_i controller action h
    obtain ⟨hs, hc, ha⟩ := (Target.halves?_eq_some_iff _ _ _).mp h
    have hw : written = String.ofList controller ++ "#" ++ String.ofList action := by
      apply String.toList_injective
      simp [hs]
    have hshort : IsShorthand written := ⟨_, _, hw, hc, ha⟩
    rw [if_pos hshort, hw, reading_shorthand _ _ hc]
    rfl
  · rename_i h
    have hnot : ¬IsShorthand written := by
      rw [← Target.isSome_halves?_iff, h]
      simp
    rw [if_neg hnot]
    rfl

theorem isNone_halves?_iff (t : Target) :
    (Target.halves? (t.controller ++ "#" ++ t.action).toList).isNone = true ↔
      ¬(IsHalf t.controller ∧ IsHalf t.action) := by
  rw [← Target.isShorthand_append_iff, ← Target.isSome_halves?_iff]
  simp

theorem check_eq_verdict (t : Target) : t.check = verdict (faults (.full t)) := by
  unfold Target.check faults demand
  rw [verdict_append]
  by_cases h : IsHalf t.controller ∧ IsHalf t.action
  · rw [if_pos h, if_neg (fun hn => (isNone_halves?_iff t).mp hn h), verdict_nil]
    cases t.space with
    | none => rfl
    | some s =>
      rw [Option.toList_some, ← checkNames_eq_verdict]
      change checkName .space s = (checkName .space s >>= fun _ => checkNames .space [])
      cases checkName .space s <;> rfl
  · rw [if_neg h, if_pos ((isNone_halves?_iff t).mpr h)]
    rfl

/-- Resolving a target is its verdict, and what it gives is its reading. -/
theorem resolve_eq (spec : TargetSpec) :
    spec.resolve = (verdict spec.faults).map fun _ => spec.reading := by
  cases spec with
  | shorthand written => exact parse_eq written
  | full t =>
    rw [← check_eq_verdict]
    change (t.check >>= fun _ => Except.ok t) = t.check.map fun _ => t
    cases t.check <;> rfl

theorem resolve_eq_ok (spec : TargetSpec) (h : spec.faults = []) :
    spec.resolve = .ok spec.reading := by
  rw [resolve_eq, h]
  rfl

/-- What a target is resolved to passes as a target given in parts, and is not changed again. -/
theorem resolve_full {spec : TargetSpec} {t : Target} (h : spec.resolve = .ok t) :
    (full t).resolve = .ok t := by
  cases hf : spec.faults with
  | cons f rest =>
    rw [resolve_eq, hf] at h
    cases h
  | nil =>
    rw [resolve_eq_ok spec hf] at h
    obtain rfl := Except.ok.inj h
    refine resolve_eq_ok (.full spec.reading) ?_
    cases spec with
    | full t => exact hf
    | shorthand written =>
      obtain ⟨controller, action, rfl, hc, ha⟩ := (demand_eq_nil_iff _ _).mp hf
      rw [reading_shorthand controller action hc, faults, List.append_eq_nil_iff,
        demand_eq_nil_iff]
      exact ⟨⟨hc, ha⟩, rfl⟩

theorem resolve_eq_error (spec : TargetSpec) (f : Fault) (rest : List Fault)
    (h : spec.faults = f :: rest) : spec.resolve = .error f := by
  rw [resolve_eq, h]
  rfl

end TargetSpec
end RoutePlan
