import RoutePlan.Regex.Expr

/-! # Size of compiled patterns

A pattern is compiled by writing its repetitions out, and what that takes is limited. The
size counts bytes: a state of the compiled form takes as many as `stateSize`. A set of
characters beyond ASCII takes the more states the more ranges it has, which are counted among
the characters in common use.
-/

namespace RoutePlan.Regex

open Text

def sizeLimit : Nat := 10 <<< 20

def stateSize : Nat := 32

/-- Ranges are counted among the characters below this code point. -/
def surveyed : Nat := 0x3000

/-- A set as it is found among the surveyed characters. -/
structure Survey where
  members : Nat := 0
  ranges : Nat := 0
  /-- The last character was a member. -/
  inside : Bool := false
  /-- The greatest member. -/
  last : Nat := 0

def Survey.see (set : CharSet) (s : Survey) (n : Nat) : Survey :=
  if set (Char.ofNat n) then
    ⟨s.members + 1, if s.inside then s.ranges else s.ranges + 1, true, n⟩
  else { s with inside := false }

def survey (set : CharSet) : Survey := (List.range surveyed).foldl (Survey.see set) {}

/-- A single character takes a state for each of its bytes, an ASCII set two states. -/
def setSize (set : CharSet) : Nat :=
  let s := survey set
  if s.members ≤ 1 then stateSize * (Char.ofNat s.last).utf8Size
  else if s.last < 128 then 2 * stateSize + 8 * s.ranges
  else 2 * stateSize + 150 * s.ranges

namespace Expr

/-- The leaves of an expression when its repetitions are written out. -/
def leaves : Expr → Nat
  | .empty | .chars _ | .look _ => 1
  | .seq a b | .alt a b => a.leaves + b.leaves
  | .loop body least most _ => body.leaves * max 1 (most.getD least)
  | .group _ body => body.leaves

def size : Expr → Nat
  | .empty => 0
  | .chars set => setSize set
  | .look _ => stateSize
  | .seq a b => a.size + b.size
  | .alt a b => a.size + b.size + 2 * stateSize
  | .loop body least most _ =>
    let copies := most.getD least
    body.size * max 1 copies + stateSize * (copies - least + 1)
  | .group _ body => body.size + 2 * stateSize

/-- So few leaves are never too large. -/
def leafBound : Nat := 100

def fits (e : Expr) : Bool := e.leaves ≤ leafBound || e.size ≤ sizeLimit

end Expr
end RoutePlan.Regex
