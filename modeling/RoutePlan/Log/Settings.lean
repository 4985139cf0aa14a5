import RoutePlan.Log.Filter

/-! # Log settings

How events are written, and which. A level text that is no filter stops the program; of the
extra directives only the faulty ones are passed over, with a warning.
-/

namespace RoutePlan.Log

inductive Format where
  | json
  | pretty
deriving DecidableEq, Repr

/-- Everything but `pretty`, in any mixture of ASCII cases, is JSON. -/
def Format.ofName (name : String) : Format :=
  if name.toList.map Char.toLower = "pretty".toList then .pretty else .json

def Format.name : Format → String
  | .json => "json"
  | .pretty => "pretty"

structure Settings where
  level : String := "info"
  format : Format := .json
  /-- Directives between commas that are added to those of the level. -/
  extra : Option String := none
deriving DecidableEq, Repr

namespace Settings

/-- The variables of the environment that hold the settings. -/
def levelVariable : String := "ROUTEDRAW_LOG_LEVEL"

def formatVariable : String := "ROUTEDRAW_LOG_FORMAT"

def extraVariable : String := "ROUTEDRAW_LOG_TARGET_FILTER"

def configure (level format extra : Option String) : Settings where
  level := level.getD "info"
  format := Format.ofName (format.getD "json")
  extra

/-- The extra directives that say something. -/
def extras (s : Settings) : List String :=
  ((s.extra.elim [] fun text => splitCommas text.toList).map fun piece =>
    Text.trimBlanks (String.ofList piece)).filter fun piece => !piece.isEmpty

/-- The filter with the extra directives that are none, or nothing if the level is none. -/
def filter? (s : Settings) : Option (Filter × List String) := do
  let base ← Filter.parse? s.level
  return s.extras.foldl (fun (done : Filter × List String) text =>
    match Directive.read text.toList with
    | some d => (done.1.add d, done.2)
    | none => (done.1, done.2 ++ [text])) (base, [])

end Settings
end RoutePlan.Log
