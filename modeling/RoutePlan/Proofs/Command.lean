import RoutePlan.Command
import RoutePlan.Proofs.RouteTable.Json

/-! # Checking and drawing

The two commands compile the same document. Where it does not compile both end with the same
fault and write nothing; where it does, `draw` writes a text from which the table is read back,
and `check` tells how long it is.
-/

namespace RoutePlan

open Json (Value)

namespace Command

variable {constraint : Option String} {content : Except FileFault String} {file : String}

/-- What `check` reports of a file for which `draw` reports this. -/
structure Mirrors (checked drawn : Report) : Prop where
  outcome : checked.outcome = drawn.outcome
  events : checked.events = drawn.events
  /-- The length of the list that was drawn. -/
  count : drawn.outcome = .ok () → ∃ items, Json.parse drawn.output = .ok (.list items) ∧
    checked.output = "ok: " ++ toString items.length ++ " routes\n"
  silent : ∀ f, drawn.outcome = .error f → drawn.output = "" ∧ checked.output = ""

theorem parse_output (table : RouteTable) (file : String) :
    Json.parse (output table (.draw file .json)) = .ok (.list (table.rows.map Row.json)) :=
  Row.parse_render table.rows "\n" (List.forall_mem_singleton.mpr rfl)

theorem check_mirrors_draw (constraint : Option String) (file : String)
    (content : Except FileFault String) :
    Mirrors (run constraint content (.check file)) (run constraint content (.draw file .json)) := by
  simp only [run, Command.file]
  cases hcompile : compile (Settings.configure constraint).1 file content with
  | mk outcome events =>
    cases outcome with
    | error f => exact ⟨rfl, rfl, fun h => (nomatch h), fun f h => ⟨rfl, rfl⟩⟩
    | ok table =>
      refine ⟨rfl, rfl, fun _ => ⟨_, parse_output table file, ?_⟩, fun f h => (nomatch h)⟩
      simp [output, RouteTable.rows, RouteTable.size]

/-- The JSON rendering of a table, whatever its texts hold, is read back as a list with one object
for each of its rows, in order. So different tables are rendered differently, and what `check`
counts are the objects that `draw` writes for the same file. -/
theorem json_rendering_lossless :
    (∀ rows : List Row, ∃ items, Json.parse (Row.render rows .json) = .ok (.list items) ∧
      List.Forall₂ (fun r v => ∃ members, v = .object members ∧ r.ShownAs members) rows items) ∧
    (Function.Injective fun rows : List Row => Row.render rows .json) ∧
    (Function.Injective fun t : RouteTable => t.render .json) ∧
    ∀ (constraint : Option String) (file : String) (content : Except FileFault String),
      Mirrors (run constraint content (.check file))
        (run constraint content (.draw file .json)) := by
  refine ⟨fun rows => ⟨rows.map Row.json, ?_, ?_⟩, Row.render_json_injective, ?_,
    check_mirrors_draw⟩
  · have hread := Row.parse_render rows "" (by simp)
    rwa [String.append_empty] at hread
  · rw [List.forall₂_map_right_iff, List.forall₂_same]
    exact fun r _ => r.json_shown
  · exact Row.render_json_injective.comp RouteTable.rows_injective

end Command
end RoutePlan
