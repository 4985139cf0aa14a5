import RoutePlan.Event
import RoutePlan.Regex
import RoutePlan.Settings

/-! # The configured constraint

The id constraint may be configured. A value that would split a segment, or that is no
expression where a pattern embeds it, is reported and the default takes its place.
-/

namespace RoutePlan.Settings

/-- The variable of the environment that holds the constraint. -/
def constraintVariable : String := "ROUTEDRAW_ID_CONSTRAINT"

/-- What is wrong with a constraint, if anything. -/
def constraintFault? (value : String) (fits : Regex.Expr → Bool := Regex.Expr.fits) :
    Option ConstraintFault :=
  if value.toList.contains '/' then some .slash
  else if (Regex.compile? ("^/(" ++ value ++ ")$") fits).isNone then some .pattern
  else none

/-- The settings for a configured value, which is read without the blanks around it. An
empty value counts as none. -/
def configure (raw : Option String) (fits : Regex.Expr → Bool := Regex.Expr.fits) :
    Settings × List Event :=
  match raw.map Text.trimBlanks with
  | none | some "" => (default, [])
  | some value =>
    match constraintFault? value fits with
    | none => (⟨value⟩, [])
    | some fault => (default, [.constraintRejected value fault defaultConstraint])

end RoutePlan.Settings
