import RoutePlan.Proofs.Resource

/-! # Singular names as segments

The singular of a name that fills a path segment fills one as well, so a resource has a
parameter name whether or not it is given one.
-/

namespace RoutePlan

theorem singularReversed_ne_nil {name : List Char} (h : name ≠ []) :
    singularReversed name ≠ [] := by
  fun_cases singularReversed name <;> simp_all

/-- The only letter that a rule brings in is the `y` of names in `ies`. -/
theorem mem_singularReversed {name : List Char} {c : Char} (h : c ∈ singularReversed name) :
    c ∈ name ∨ c = 'y' := by
  fun_cases singularReversed name <;> simp_all [singularReversed]
  grind

theorem isSegment_singular {name : String} (h : IsSegment name) : IsSegment (singular name) := by
  obtain ⟨hne, hall⟩ := h
  have hlist : name.toList.reverse ≠ [] := by simpa using hne
  refine ⟨?_, fun c hc => ?_⟩
  · simpa [singular] using singularReversed_ne_nil hlist
  · rw [singular, String.toList_ofList, List.mem_reverse] at hc
    rcases mem_singularReversed hc with hm | rfl
    · exact hall c (List.mem_reverse.mp hm)
    · decide

/-- A resource whose name and parameter name are names has one to be addressed by. -/
theorem ResourceSpec.isSegment_param {r : ResourceSpec}
    (h : nameFaults .resources r.names = []) : IsSegment r.param := by
  have hnames := (nameFaults_eq_nil_iff _ _).mp h
  have hname : IsSegment r.name := hnames r.name (by simp [names])
  cases hp : r.options.param with
  | none => simpa [param, hp] using isSegment_singular hname
  | some p => simpa [param, hp] using hnames p (by simp [names, hp])

theorem ResourceSpec.isSegment_of_faultless {r : ResourceSpec} (h : r.faults = []) :
    IsSegment r.name ∧ IsSegment r.param := by
  have hnames := (List.append_eq_nil_iff.mp h).2
  exact ⟨(nameFaults_eq_nil_iff _ _).mp hnames r.name (by simp [names]), isSegment_param hnames⟩

end RoutePlan
