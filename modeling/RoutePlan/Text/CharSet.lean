/-! # Sets of characters

A set is its membership test, so every operation means what its test says and nothing has to
be kept sorted.
-/

namespace RoutePlan.Text

abbrev CharSet := Char → Bool

namespace CharSet

def empty : CharSet := fun _ => false

def full : CharSet := fun _ => true

def single (c : Char) : CharSet := fun d => d == c

/-- The characters between two, ends included. -/
def between (lo hi : Char) : CharSet := fun d => lo.toNat ≤ d.toNat && d.toNat ≤ hi.toNat

def ofList (cs : List Char) : CharSet := fun d => cs.contains d

/-- The characters whose code points lie in one of the closed ranges. -/
def ranges (bounds : List (Nat × Nat)) : CharSet := fun d =>
  bounds.any fun r => r.1 ≤ d.toNat && d.toNat ≤ r.2

def union (a b : CharSet) : CharSet := fun d => a d || b d

def inter (a b : CharSet) : CharSet := fun d => a d && b d

def diff (a b : CharSet) : CharSet := fun d => a d && !b d

def symmDiff (a b : CharSet) : CharSet := fun d => a d != b d

def compl (a : CharSet) : CharSet := fun d => !a d

/-- The characters that are in the set or have one of their variants in it. -/
def closure (variants : Char → List Char) (a : CharSet) : CharSet := fun d =>
  a d || (variants d).any a

end CharSet
end RoutePlan.Text
