/-! # JSON values

A value as a tree. The members of an object keep the order they were given in, and a key may
occur more than once.
-/

namespace RoutePlan.Json

/-- Integers are kept exactly; whatever has a point or an exponent, or is too long for a
machine word, is a double. -/
inductive Number where
  | natural (n : Nat)
  /-- The integer `-n`, below zero. -/
  | negative (n : Nat)
  | real (x : Float)
deriving Repr

inductive Value where
  | null
  | bool (b : Bool)
  | number (n : Number)
  | text (s : String)
  | list (items : List Value)
  | object (members : List (String × Value))
deriving Repr

/-- Natural numbers below this bound are integers. -/
def Number.naturalBound : Nat := 1 <<< 64

/-- Negative integers go down to this far below zero. -/
def Number.negativeBound : Nat := 1 <<< 63

/-- Put a member into an object whose keys are in order and occur once. A member of the same
key is replaced. -/
def insertMember (key : String) (value : Value) : List (String × Value) → List (String × Value)
  | [] => [(key, value)]
  | (k, v) :: rest =>
    if key = k then (key, value) :: rest
    else if key < k then (key, value) :: (k, v) :: rest
    else (k, v) :: insertMember key value rest

/-- The object of these members with its keys in order; of equal keys the last one counts. -/
def Value.ofMembers (members : List (String × Value)) : Value :=
  .object (members.foldl (fun done m => insertMember m.1 m.2 done) [])

end RoutePlan.Json
