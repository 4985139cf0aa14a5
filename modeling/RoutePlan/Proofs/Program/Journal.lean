import RoutePlan.Program

/-! # Journals

A journal keeps the tables that the steps of a run left behind. Here is how a journal reads
when its tables are replaced by others, and what settling and excusing a step add to it.
-/

namespace RoutePlan

variable {τ σ ρ α β : Type}

namespace Note

def map (f : τ → σ) : Note τ → Note σ
  | .event e => .event e
  | .entered position place => .entered position place
  | .finished position outcome table => .finished position outcome (f table)

def table? : Note τ → Option τ
  | .finished _ _ table => some table
  | .event _ | .entered _ _ => none

theorem map_comp_map (f : τ → σ) (g : σ → ρ) : map g ∘ map f = map (g ∘ f) := by
  funext n
  cases n <;> rfl

theorem map_congr {f g : τ → σ} {n : Note τ}
    (h : ∀ table, n.table? = some table → f table = g table) : n.map f = n.map g := by
  cases n with
  | event e => rfl
  | entered position place => rfl
  | finished position outcome table => rw [map, map, h table rfl]

theorem table?_comp_map (f : τ → σ) : table? ∘ map f = Option.map f ∘ table? := by
  funext n
  cases n <;> rfl

end Note

def Drawn.map (f : τ → σ) (drawn : Drawn τ (Note τ) α) : Drawn σ (Note σ) α :=
  ⟨drawn.outcome, f drawn.table, drawn.notes.map (Note.map f)⟩

/-- The tables in a journal that starts at `start` and ends at `last`. -/
def moments (start : τ) (notes : List (Note τ)) (last : τ) : List τ :=
  start :: notes.filterMap Note.table? ++ [last]

theorem moments_map (f : τ → σ) (start : τ) (notes : List (Note τ)) (last : τ) :
    moments (f start) (notes.map (Note.map f)) (f last) = (moments start notes last).map f := by
  have htables : (notes.map (Note.map f)).filterMap Note.table? =
      (notes.filterMap Note.table?).map f := by
    rw [List.filterMap_map, List.map_filterMap, Note.table?_comp_map]
    rfl
  rw [moments, moments, htables, List.map_append, List.map_cons, List.map_singleton]

/-- Two journals that are in order, where one starts at the table the other ends with, are in
order together. -/
theorem moments_append {start middle last : List τ} {notes notes' : List (Note (List τ))}
    (hfirst : (moments start notes middle).Pairwise (· <+: ·))
    (hsecond : (moments middle notes' last).Pairwise (· <+: ·)) :
    (moments start (notes ++ notes') last).Pairwise (· <+: ·) := by
  obtain ⟨hleft, -, hacross⟩ := List.pairwise_append.1 hfirst
  obtain ⟨hhead, hright⟩ := List.pairwise_cons.1 hsecond
  have hsplit : moments start (notes ++ notes') last =
      (start :: notes.filterMap Note.table?) ++ (notes'.filterMap Note.table? ++ [last]) := by
    simp [moments]
  rw [hsplit]
  refine List.pairwise_append.2 ⟨hleft, hright, fun earlier he later hl => ?_⟩
  exact (hacross earlier he middle (List.mem_singleton_self middle)).trans (hhead later hl)

theorem bind_apply (step : Running τ α) (next : α → Running τ β) (table : τ) :
    (step >>= next) table =
      match (step table).outcome with
      | .error f => ⟨.error f, (step table).table, (step table).notes⟩
      | .ok a => ⟨(next a (step table).table).outcome, (next a (step table).table).table,
          (step table).notes ++ (next a (step table).table).notes⟩ := rfl

theorem settle_apply (position : List Nat) (step : Running τ Unit) (table : τ) :
    settle position step table =
      ⟨(step table).outcome, (step table).table,
        (step table).notes ++ [.finished position (step table).outcome (step table).table]⟩ := by
  cases hstep : (step table).outcome with
  | ok u =>
    simp only [settle, bind_apply, Drawing.attempt, Drawing.look, Drawing.note, hstep,
      Drawing.ofExcept, Drawing.done, List.nil_append, List.append_nil]
  | error f =>
    simp only [settle, bind_apply, Drawing.attempt, Drawing.look, Drawing.note, hstep,
      Drawing.ofExcept, Drawing.fail, List.nil_append, List.append_nil]

theorem excuse_apply (step : Running τ Unit) (table : τ) :
    excuse step table = ⟨.ok (), (step table).table, (step table).notes⟩ := by
  change (Drawing.attempt step >>= fun _ => Drawing.done ()) table = _
  simp only [bind_apply, Drawing.attempt, Drawing.done, List.append_nil]

end RoutePlan
