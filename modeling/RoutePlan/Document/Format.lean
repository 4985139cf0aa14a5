import RoutePlan.Document
import RoutePlan.Yaml

/-! # Formats of documents

A definition is written in JSON or in YAML. JSON is read along the schema; YAML is made a
tree first, so that a text which is no YAML is reported whatever it would have held.
-/

namespace RoutePlan

inductive DocumentFormat where
  | json
  | yaml
deriving DecidableEq, Repr

inductive DocumentFault where
  /-- The text is no YAML, or has no value. -/
  | yaml
  | content (fault : Json.ReadFault)
deriving Repr

/-- What was being done when the fault arose. -/
def DocumentFault.context : DocumentFault → String
  | .yaml => "Failed to parse YAML route definitions"
  | .content _ => "Invalid route definition document"

namespace Definition

def ofValue (v : Json.Value) : Except Json.Mismatch Definition := Document.definition.ofValue v

def ofJson (text : String) : Except Json.ReadFault Definition := Document.definition.parse text

def ofYaml (text : String) : Except DocumentFault Definition :=
  match Yaml.parse text with
  | none => .error .yaml
  | some v => (ofValue v).mapError fun m => .content (.mismatch m)

def ofText : DocumentFormat → String → Except DocumentFault Definition
  | .json, text => (ofJson text).mapError .content
  | .yaml, text => ofYaml text

end Definition
end RoutePlan
