/-! # Runs

A value for every code point that stays the same over long stretches is kept as the runs of equal
values in code point order. A run is written as one letter, whose place among the letters is the
value, and the length of the run where that is more than one.
-/

namespace RoutePlan.Text

/-- The first code point of every run with its value. -/
abbrev Runs := Array (Nat × Nat)

namespace Runs

def letters : List Char := "abcdefghijklmnopqrstuvwxyzABCDEFGHIJKLMNOPQRSTUVWXYZ".toList

/-- The runs after a letter that began one of the given value at the given code point, of which
the digits read so far make the given length. -/
def read (value first length : Nat) : List Char → List (Nat × Nat)
  | [] => [(first, value)]
  | c :: rest =>
    if c.isDigit then read value first (10 * length + (c.toNat - '0'.toNat)) rest
    else (first, value) :: read (letters.idxOf c) (first + max length 1) 0 rest

def ofString (text : String) : Runs :=
  match text.toList with
  | [] => #[]
  | c :: rest => (read (letters.idxOf c) 0 0 rest).toArray

/-- The value of the last run that starts at or before a code point, by bisection. -/
def search (runs : Runs) (n lo hi : Nat) : Nat :=
  if lo + 1 < hi then
    let mid := (lo + hi) / 2
    if (runs[mid]?.elim 0 (·.1)) ≤ n then search runs n mid hi else search runs n lo mid
  else runs[lo]?.elim 0 (·.2)
termination_by hi - lo

def valueAt (runs : Runs) (n : Nat) : Nat := search runs n 0 runs.size

end Runs
end RoutePlan.Text
