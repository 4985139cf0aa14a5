import RoutePlan.Decimal.Text
import RoutePlan.Json.Value
import RoutePlan.Text.Debug

/-! # Faults of JSON documents

A text is faulty in three ways: it is no JSON, it ends too early, or a value in it is not
what the reader of the document asks for. Only the last says more.
-/

namespace RoutePlan.Json

/-- What stands where something else was asked for. Lists and objects are not described
further. -/
inductive Found where
  | null
  | bool (b : Bool)
  | number (n : Number)
  | text (s : String)
  | list
  | object
  /-- A variant's name without its content. -/
  | bareVariant
deriving Repr

def Value.found : Value → Found
  | .null => .null
  | .bool b => .bool b
  | .number n => .number n
  | .text s => .text s
  | .list _ => .list
  | .object _ => .object

/-- A value that is not what was asked for. -/
inductive Mismatch where
  | unexpected (found : Found) (expected : String)
  | notSingle
  /-- A list ends before the field at this place. -/
  | shortList (length : Nat) (record : String) (fields : Nat)
  | longList (length : Nat)
  | missing (field : String)
  | duplicate (field : String)
  | unknownVariant (name : String) (known : List String)
  | noAlternative (choice : String)
  | rejected (reason : String)
deriving Repr

inductive ReadFault where
  | malformed
  | ended
  | mismatch (m : Mismatch)
deriving Repr

def Number.toText : Number → String
  | .natural n => toString n
  | .negative n => "-" ++ toString n
  | .real x => Decimal.ofFloat x

def Found.message : Found → String
  | .null => "null"
  | .bool b => "boolean `" ++ (if b then "true" else "false") ++ "`"
  | .number (.real x) => "floating point `" ++ (Number.real x).toText ++ "`"
  | .number n => "integer `" ++ n.toText ++ "`"
  | .text s => "string " ++ Text.visible s
  | .list => "sequence"
  | .object => "map"
  | .bareVariant => "unit variant"

/-- Names in an enumeration: two are joined by `or`, more follow `one of`. -/
def oneOf : List String → String
  | [] => "there are no variants"
  | [a] => "expected `" ++ a ++ "`"
  | [a, b] => "expected `" ++ a ++ "` or `" ++ b ++ "`"
  | names => "expected one of " ++ ", ".intercalate (names.map fun n => "`" ++ n ++ "`")

def recordOf (record : String) (fields : Nat) : String :=
  "struct " ++ record ++ " with " ++ toString fields ++
    if fields = 1 then " element" else " elements"

def Mismatch.message : Mismatch → String
  | .unexpected found expected =>
    "invalid type: " ++ found.message ++ ", expected " ++ expected
  | .notSingle => "invalid value: map, expected map with a single key"
  | .shortList length record fields =>
    "invalid length " ++ toString length ++ ", expected " ++ recordOf record fields
  | .longList length =>
    "invalid length " ++ toString length ++ ", expected fewer elements in array"
  | .missing field => "missing field `" ++ field ++ "`"
  | .duplicate field => "duplicate field `" ++ field ++ "`"
  | .unknownVariant name known => "unknown variant `" ++ name ++ "`, " ++ oneOf known
  | .noAlternative choice => "data did not match any variant of untagged enum " ++ choice
  | .rejected reason => reason

end RoutePlan.Json
