import RoutePlan.Document.Format
import RoutePlan.Proofs.Json.Printing

/-! # Reading definitions

A definition is read from JSON along its schema and from YAML by way of a tree. Every schema of
the document agrees on the two ways, the declarations by induction on how deep they may nest, so
that the text of a value and its tree give the same definition.
-/

namespace RoutePlan

open Json (Schema Fields Denotes)

namespace Document

theorem agrees_verb : verb.Agrees := Schema.agrees_text.refine _

theorem agrees_optionalField {α β : Type} {schema : Schema α} {rest : Fields β}
    (h : schema.Agrees) (hrest : rest.Agrees) (name : String) :
    (optionalField name schema rest).Agrees :=
  ⟨h.optional, hrest⟩

theorem agrees_target : target.Agrees := by
  refine .map (.record ?_ _) _
  exact ⟨Schema.agrees_text, Schema.agrees_text, agrees_optionalField Schema.agrees_text
    (agrees_optionalField Schema.agrees_text Fields.agrees_done _) _⟩

theorem agrees_targetSpec : targetSpec.Agrees :=
  .either (Schema.agrees_text.map _) (agrees_target.map _) _

theorem agrees_names : names.Agrees :=
  .either (Schema.agrees_text.map _) Schema.agrees_text.list _

theorem agrees_route : route.Agrees := by
  refine .map (.record ?_ _) _
  exact ⟨agrees_verb, Schema.agrees_text, agrees_targetSpec, Fields.agrees_done⟩

theorem agrees_action : action.Agrees := by
  refine .map (.record ?_ _) _
  exact ⟨agrees_verb, Schema.agrees_text, Fields.agrees_done⟩

section Blocks

variable {inner : Schema (List Declaration)}

theorem agrees_block (h : inner.Agrees) : (block inner).Agrees := ⟨h, Fields.agrees_done⟩

theorem agrees_space (h : inner.Agrees) : (space inner).Agrees := by
  refine .map (.record ?_ _) _
  exact ⟨agrees_names, agrees_block h⟩

theorem agrees_resources (h : inner.Agrees) : (resources inner).Agrees := by
  have text := Schema.agrees_text
  refine .map (.record ?_ _) _
  refine ⟨text, agrees_optionalField text (agrees_optionalField text.list ?_ _) _⟩
  exact agrees_optionalField text.list
    (agrees_optionalField text (agrees_optionalField text (agrees_block h) _) _) _

end Blocks

theorem agrees_declarations (levels : Nat) : (declarations levels).Agrees := by
  induction levels with
  | zero => exact Schema.agrees_never
  | succ levels ih =>
    refine .list (.choice fun p hp => ?_)
    simp only [List.mem_cons, List.not_mem_nil, or_false] at hp
    rcases hp with rfl | rfl | rfl | rfl | rfl
    · exact agrees_route
    · exact agrees_space ih
    · exact agrees_resources ih
    · exact agrees_action.list.map _
    · exact agrees_action.list.map _

theorem agrees_definition : definition.Agrees := by
  refine .map (.record ?_ _) _
  exact agrees_block (agrees_declarations Json.depthLimit)

end Document

namespace Definition

theorem ofJson_toOption {text : String} {v : Json.Value} (h : Denotes text v)
    (hdepth : v.height ≤ 127) : (ofJson text).toOption = (ofValue v).toOption :=
  Document.agrees_definition.parse_toOption h (Nat.lt_succ_of_le hdepth)

theorem ofYaml_toOption {yaml : String} {v : Json.Value} (h : Yaml.parse yaml = some v) :
    (ofYaml yaml).toOption = (ofValue v).toOption := by
  simp only [ofYaml, h]
  exact Json.toOption_mapError _ _

/-- The text of a value is accepted where its tree is, and both give the same definition, which
compiles to the same table or the same fault. So does every YAML text of the same value. -/
theorem readings_agree {text : String} {v : Json.Value} (h : Denotes text v)
    (hdepth : v.height ≤ 127) :
    (∀ d, ofJson text = .ok d ↔ ofValue v = .ok d) ∧
    (∀ settings : Settings, (ofJson text).toOption.map (compile settings)
      = (ofValue v).toOption.map (compile settings)) ∧
    ∀ yaml, Yaml.parse yaml = some v → (ofYaml yaml).toOption = (ofJson text).toOption := by
  have hread := ofJson_toOption h hdepth
  refine ⟨fun d => ?_, fun settings => by rw [hread], fun yaml hyaml => ?_⟩
  · rw [← Json.toOption_eq_some, ← Json.toOption_eq_some, hread]
  · rw [ofYaml_toOption hyaml, hread]

/-- A record is written as a list whose tail is left out, and one member is no field. -/
def sampleValue : Json.Value :=
  .object [("note", .text "\t"), ("routes", .list [.object [("resources", .list [.text "posts"])]])]

/-- The members stand in reverse order, and the note is escaped. -/
def sampleText : String :=
  "\x7b
  \"routes\": [
    \x7b
      \"resources\": [
        \"posts\"
      ]
    \x7d
  ],
  \"note\": \"\\t\"
\x7d
"

theorem denotes_sample : Denotes sampleText sampleValue := by
  let members : List (String × Json.Value) :=
    [("routes", .list [.object [("resources", .list [.text "posts"])]]), ("note", .text "\t")]
  have hverbal : (Json.Value.object members).IsVerbal := by
    simp [members, Json.Value.IsVerbal, Json.ItemsVerbal, Json.MembersVerbal]
  have htext : sampleText = (Json.Value.object members).toText ++ "\n" := by cbv
  refine ⟨.object members, ['\n'], htext ▸ hverbal.stands_toText "\n",
    List.forall_mem_singleton.mpr rfl, ?_⟩
  exact .object (Json.membersAlike_refl members) (List.reverse_perm members).symm

theorem readings_agree_sample :
    Denotes sampleText sampleValue ∧ sampleValue.height ≤ 127 ∧
    ofJson sampleText = .ok ⟨[.resources "posts" {} []]⟩ := by
  have hheight : sampleValue.height ≤ 127 := by decide
  exact ⟨denotes_sample, hheight, ((readings_agree denotes_sample hheight).1 _).mpr rfl⟩

end Definition

end RoutePlan
