import RoutePlan.Fault
import RoutePlan.Text.Blank

/-! # Names

Namespace segments, resource names and action names each fill one path segment: they are
not empty and hold neither a slash nor a blank.
-/

namespace RoutePlan

def isNameChar (c : Char) : Bool := c != '/' && !Text.isBlank c

def isName (s : String) : Bool := !s.toList.isEmpty && s.toList.all isNameChar

/-- Refuses what is not a name, on behalf of the declaration that received it. -/
def checkName (construct : Construct) (s : String) : Except Fault Unit :=
  if isName s then .ok () else .error (.invalidName construct s)

/-- The first of several names that is none decides. -/
def checkNames (construct : Construct) : List String → Except Fault Unit
  | [] => .ok ()
  | s :: rest => do
    checkName construct s
    checkNames construct rest

@[simp] theorem checkName_eq_ok_iff (construct : Construct) (s : String) :
    checkName construct s = .ok () ↔ isName s = true := by
  unfold checkName
  split <;> simp_all

end RoutePlan
