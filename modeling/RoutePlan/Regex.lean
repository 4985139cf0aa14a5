import RoutePlan.Regex.Match
import RoutePlan.Regex.Reading
import RoutePlan.Regex.Size

/-! # Compiled patterns

A compiled pattern keeps its source beside the expression it denotes. It is asked whether a
text has a match, and for the texts of its groups.
-/

namespace RoutePlan

structure Regex where
  source : String
  expr : Regex.Expr

namespace Regex

/-- The pattern with this source, whatever its size. -/
def ofSource? (source : String) : Option Regex :=
  (read? source.toList).map (⟨source, ·⟩)

/-- The pattern with this source, where the size test lets its expression through. -/
def compile? (source : String) (fits : Expr → Bool := Expr.fits) : Option Regex :=
  (ofSource? source).filter fun r => fits r.expr

/-- The texts of the groups, from the first, in the preferred match; a group that took no
part has none. -/
def captures? (r : Regex) (text : String) : Option (List (Option String)) :=
  (leftmost r.expr none text.toList).map fun c =>
    (List.range r.expr.groups).map fun i => (c.groups.lookup (i + 1)).map String.ofList

def isMatch (r : Regex) (text : String) : Bool := (leftmost r.expr none text.toList).isSome

end Regex
end RoutePlan
