/-! # Settings

The one setting of a drawing pass is the constraint that stands between the parentheses of
a generated id segment.
-/

namespace RoutePlan

structure Settings where
  idConstraint : String
deriving DecidableEq, Repr

namespace Settings

def defaultConstraint : String := "\\d+"

def default : Settings := ⟨defaultConstraint⟩

/-- A path segment for the parameter `name`, with its slash. -/
def idSegment (settings : Settings) (name : String) : String :=
  "/:" ++ name ++ "(" ++ settings.idConstraint ++ ")"

end Settings
end RoutePlan
