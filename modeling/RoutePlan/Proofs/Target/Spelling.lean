import RoutePlan.Proofs.Target
import RoutePlan.Scope

/-! # Two spellings of a target

A text is the shorthand of a target if one `#` stands in it, with text on both sides and no blank
anywhere. A controller and an action that are given apart are accepted exactly if the text they
make around a `#` is such a text, and that text is then read as these two. So a scope cannot tell
which way a target was written.
-/

namespace RoutePlan

variable {τ η ν : Type}

/-- One `#`, text on both sides of it, and no blank. -/
structure HashedOnce (s : String) : Prop where
  once : s.toList.count '#' = 1
  sides : ∀ before after, s = before ++ "#" ++ after → before ≠ "" ∧ after ≠ ""
  blankless : ∀ c ∈ s.toList, ¬Text.isBlank c

/-! ## The text around a hash -/

theorem IsHalf.not_mem {s : String} (h : IsHalf s) : '#' ∉ s.toList := fun hm => (h.2 _ hm).1 rfl

/-- There is one way only to take two halves apart. -/
theorem IsHalf.split_unique {controller action before after : String} (hc : IsHalf controller)
    (ha : IsHalf action) (h : before ++ "#" ++ after = controller ++ "#" ++ action) :
    before = controller ∧ after = action := by
  have hlists := Target.eq_of_append_hash_eq hc.not_mem ha.not_mem
    (by simpa using congrArg String.toList h)
  exact ⟨String.toList_injective hlists.1, String.toList_injective hlists.2⟩

theorem IsShorthand.hashedOnce {s : String} (h : IsShorthand s) : HashedOnce s := by
  obtain ⟨controller, action, rfl, hc, ha⟩ := h
  constructor
  case once =>
    simp [List.count_eq_zero_of_not_mem hc.not_mem, List.count_eq_zero_of_not_mem ha.not_mem]
  case sides =>
    intro before after heq
    obtain ⟨rfl, rfl⟩ := hc.split_unique ha heq.symm
    exact ⟨hc.1, ha.1⟩
  case blankless =>
    intro c hm
    rw [String.toList_append, String.toList_append, List.mem_append, List.mem_append] at hm
    rcases hm with (hm | hm) | hm
    · exact (hc.2 c hm).2
    · obtain rfl : c = '#' := by simpa using hm
      decide
    · exact (ha.2 c hm).2

theorem HashedOnce.isShorthand {s : String} (h : HashedOnce s) : IsShorthand s := by
  obtain ⟨before, after, hsplit⟩ : ∃ before after, s.toList = before ++ '#' :: after :=
    List.append_of_mem (List.count_pos_iff.mp (by rw [h.once]; exact Nat.one_pos))
  have hs : s = String.ofList before ++ "#" ++ String.ofList after := by
    apply String.toList_injective
    simp [hsplit]
  have honce := h.once
  rw [hsplit, List.count_append, List.count_cons_self] at honce
  have hbefore : '#' ∉ before := List.count_eq_zero.mp (by omega)
  have hafter : '#' ∉ after := List.count_eq_zero.mp (by omega)
  have hhalf : ∀ part : List Char, part <:+: s.toList → '#' ∉ part → String.ofList part ≠ "" →
      IsHalf (String.ofList part) := by
    intro part hpart hhash hne
    refine ⟨hne, fun c hc => ?_⟩
    rw [String.toList_ofList] at hc
    exact ⟨ne_of_mem_of_not_mem hc hhash, h.blankless c (hpart.subset hc)⟩
  obtain ⟨hne, hne'⟩ := h.sides _ _ hs
  refine ⟨_, _, hs, hhalf before ⟨[], '#' :: after, ?_⟩ hbefore hne,
    hhalf after ⟨before ++ ['#'], [], ?_⟩ hafter hne'⟩
  · rw [hsplit, List.nil_append]
  · rw [hsplit, List.append_nil, List.append_assoc, List.singleton_append]

theorem isShorthand_iff_hashedOnce (s : String) : IsShorthand s ↔ HashedOnce s :=
  ⟨IsShorthand.hashedOnce, HashedOnce.isShorthand⟩

/-! ## Reading a shorthand -/

theorem Target.parse_eq_ok_iff (s : String) (t : Target) :
    parse s = .ok t ↔ (s = t.controller ++ "#" ++ t.action ∧ IsHalf t.controller ∧
      IsHalf t.action) ∧ t = { controller := t.controller, action := t.action } := by
  rw [TargetSpec.parse_eq]
  constructor
  · intro h
    by_cases hs : IsShorthand s
    · obtain ⟨controller, action, rfl, hc, ha⟩ := id hs
      rw [TargetSpec.faults, (demand_eq_nil_iff _ _).mpr hs,
        TargetSpec.reading_shorthand controller action hc] at h
      obtain rfl := Except.ok.inj h
      exact ⟨⟨rfl, hc, ha⟩, rfl⟩
    · rw [TargetSpec.faults, demand, if_neg hs] at h
      cases h
  · rintro ⟨⟨rfl, hc, ha⟩, ht⟩
    have hs : IsShorthand (t.controller ++ "#" ++ t.action) := ⟨_, _, rfl, hc, ha⟩
    rw [TargetSpec.faults, (demand_eq_nil_iff _ _).mpr hs, TargetSpec.reading_shorthand _ _ hc,
      ← ht]
    rfl

theorem Target.parse_eq_error {s : String} (h : ¬HashedOnce s) :
    parse s = .error (.malformedTarget s) := by
  rw [← isShorthand_iff_hashedOnce] at h
  rw [TargetSpec.parse_eq, TargetSpec.faults, demand, if_neg h]
  rfl

theorem Target.exists_parse_iff (s : String) : (∃ t, parse s = .ok t) ↔ HashedOnce s := by
  rw [← isShorthand_iff_hashedOnce]
  constructor
  · rintro ⟨t, ht⟩
    exact ⟨_, _, ((parse_eq_ok_iff s t).mp ht).1⟩
  · rintro ⟨controller, action, hs⟩
    exact ⟨{ controller, action }, (parse_eq_ok_iff s _).mpr ⟨hs, rfl⟩⟩

namespace TargetSpec

theorem resolve_full_eq_ok_iff (t : Target) : (full t).resolve = .ok t ↔ t.check = .ok () := by
  change (t.check >>= fun _ => Except.ok t) = .ok t ↔ _
  cases t.check <;> simp [bind, Except.bind]

/-- The parts are accepted as they are, or refused with the text they make. -/
theorem resolve_full_eq_parse (controller action : String) :
    (full { controller, action }).resolve = Target.parse (controller ++ "#" ++ action) := by
  by_cases h : IsHalf controller ∧ IsHalf action
  · rw [(Target.parse_eq_ok_iff _ { controller, action }).mpr ⟨⟨rfl, h⟩, rfl⟩]
    refine resolve_eq_ok (full { controller, action }) ?_
    rw [faults, (demand_eq_nil_iff _ _).mpr h]
    rfl
  · have hnot : ¬HashedOnce (controller ++ "#" ++ action) := by
      rwa [← isShorthand_iff_hashedOnce, Target.isShorthand_append_iff]
    rw [Target.parse_eq_error hnot]
    refine resolve_eq_error (full { controller, action }) _ [] ?_
    rw [faults, demand, if_neg h]
    rfl

/-- A shorthand is read exactly if it is hashed once; what is read of it are the only two texts
around a `#` that make it, without mount and namespace, and they pass as a target given in parts;
every other text is refused by name. Two parts are accepted exactly if the text they make is read,
which then gives these parts; a `#` in one of them is refused; and on every scope and for every
table the two spellings do the same. -/
theorem spellings_agree (env : Surroundings τ η ν) :
    (∀ s, (∃ t, Target.parse s = .ok t) ↔ HashedOnce s) ∧
    (∀ s t, Target.parse s = .ok t → t.mount = none ∧ t.space = none ∧ t.check = .ok () ∧
      ∀ controller action, s = controller ++ "#" ++ action ↔
        controller = t.controller ∧ action = t.action) ∧
    (∀ s, ¬HashedOnce s → Target.parse s = .error (.malformedTarget s)) ∧
    ∀ controller action,
      let apart : TargetSpec := .full { controller, action }
      let written := controller ++ "#" ++ action
      ((∃ t, apart.resolve = .ok t) ↔ ∃ t, Target.parse written = .ok t) ∧
      (∀ t, Target.parse written = .ok t → t = { controller, action } ∧ apart.resolve = .ok t) ∧
      ('#' ∈ controller.toList ∨ '#' ∈ action.toList →
        apart.resolve = .error (.malformedTarget written)) ∧
      ∀ (scope : Scope) (verb : Verb) (path : String),
        scope.route env verb path (.shorthand written) = scope.route env verb path apart := by
  refine ⟨Target.exists_parse_iff, ?read, fun s => Target.parse_eq_error, ?parts⟩
  case read =>
    intro s t h
    obtain ⟨⟨rfl, hc, ha⟩, ht⟩ := (Target.parse_eq_ok_iff s t).mp h
    have hcheck : t.check = .ok () := by
      rw [← resolve_full_eq_ok_iff]
      exact @resolve_full (.shorthand _) t h
    refine ⟨by rw [ht], by rw [ht], hcheck, fun controller action => ⟨fun h => ?_, ?_⟩⟩
    · exact hc.split_unique ha h.symm
    · rintro ⟨rfl, rfl⟩
      rfl
  case parts =>
    intro controller action apart written
    have hresolve : apart.resolve = Target.parse written := resolve_full_eq_parse controller action
    refine ⟨by rw [hresolve], fun t h => ?_, fun h => ?_, fun scope verb path => ?_⟩
    · obtain ⟨⟨hs, hc, ha⟩, ht⟩ := (Target.parse_eq_ok_iff written t).mp h
      obtain ⟨hcontroller, haction⟩ := hc.split_unique ha hs
      refine ⟨?_, hresolve.trans h⟩
      rw [ht, ← hcontroller, ← haction]
    · rw [hresolve]
      refine Target.parse_eq_error fun hhashed => ?_
      rw [← isShorthand_iff_hashedOnce, Target.isShorthand_append_iff] at hhashed
      exact h.elim hhashed.1.not_mem hhashed.2.not_mem
    · unfold Scope.route
      rw [hresolve]
      rfl

/-- A hash hidden in a part is refused as a second hash in the shorthand is. -/
theorem spellings_agree_hidden :
    let env : Surroundings Nat Unit Event := ⟨.default, ⟨fun _ _ => (), fun n _ _ _ => n + 1⟩, id⟩
    ({ controller := "posts", action := "index" } : Target).check = .ok () ∧
      Scope.root.route env .get "/" (.shorthand "posts#index") =
        Scope.root.route env .get "/" (.full { controller := "posts", action := "index" }) ∧
      Target.parse "posts#index#a" = .error (.malformedTarget "posts#index#a") ∧
      (full { controller := "posts#index", action := "a" }).resolve =
        .error (.malformedTarget "posts#index#a") := by
  intro env
  obtain ⟨-, hread, hrefused, hparts⟩ := spellings_agree env
  obtain ⟨-, -, hcheck, -⟩ := hread "posts#index" _ rfl
  obtain ⟨-, -, -, hroute⟩ := hparts "posts" "index"
  obtain ⟨-, -, hhidden, -⟩ := hparts "posts#index" "a"
  have htwice : ¬HashedOnce "posts#index#a" := fun h => absurd h.once (by decide)
  exact ⟨hcheck, hroute .root .get "/", hrefused _ htwice, hhidden (.inl (by decide))⟩

end TargetSpec
end RoutePlan
