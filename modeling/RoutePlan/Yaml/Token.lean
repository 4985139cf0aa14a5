/-! # YAML tokens -/

namespace RoutePlan.Yaml

/-- A tag as written: a handle that a directive may define, and the rest. -/
structure Tag where
  handle : String
  suffix : String
deriving DecidableEq, Repr

inductive Token where
  | version (major minor : Nat)
  | tagHandle (handle meaning : String)
  | documentStart
  | documentEnd
  | blockListStart
  | blockMappingStart
  | blockEnd
  | listStart
  | listEnd
  | mappingStart
  | mappingEnd
  | item
  | comma
  | key
  | value
  | alias (name : String)
  | anchor (name : String)
  | tag (tag : Tag)
  /-- A text. Only a plain one may stand for something else. -/
  | scalar (plain : Bool) (text : String)
deriving DecidableEq, Repr

end RoutePlan.Yaml
