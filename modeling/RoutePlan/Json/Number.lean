import RoutePlan.Json.Layout

/-! # JSON numbers

The value of a number's text. An integer that fits a machine word is exact. For every other
number the digits are gathered while they fit a word, the rest only count as powers of ten,
and the double is the gathered integer multiplied or divided by that power. A number beyond
the doubles is malformed.
-/

namespace RoutePlan.Json

def isDigit (c : Char) : Bool := '0' ≤ c && c ≤ '9'

def digitValue (c : Char) : Nat := c.toNat - 48

/-- Append digits to an integer while it fits a machine word. The second component counts
them. -/
def gather (n : Nat) : List Char → Nat × Nat × List Char
  | [] => (n, 0, [])
  | c :: rest =>
    if isDigit c ∧ n * 10 + digitValue c < Number.naturalBound then
      let (m, taken, after) := gather (n * 10 + digitValue c) rest
      (m, taken + 1, after)
    else (n, 0, c :: rest)

/-- A power of ten as a double. -/
def powerOfTen (n : Nat) : Float := Float.ofScientific 1 false n

/-- `f * 10 ^ e`. Division goes in steps, as the doubles hold no power beyond `10 ^ 308`. -/
def scale (f : Float) (e : Int) : Option Float :=
  if e > 308 then if f == 0 then some f else none
  else if e ≥ 0 then
    let g := f * powerOfTen e.toNat
    if g.isInf then none else some g
  else if e ≥ -308 then some (f / powerOfTen (-e).toNat)
  else if f == 0 then some f
  else scale (f / powerOfTen 308) (e + 308)
termination_by (-e).toNat
decreasing_by omega

/-- The double of `n * 10 ^ e` with its sign. -/
def realOf (positive : Bool) (n : Nat) (e : Int) : Except ReadFault Number :=
  match scale (Float.ofNat n) e with
  | some f => .ok (.real (if positive then f else -f))
  | none => .error .malformed

/-- Exponents beyond this bound are not read to their end. -/
def exponentBound : Nat := 1 <<< 31

/-- The exponent after its mark, and the number it completes. -/
def readExponent (positive : Bool) (n : Nat) (e : Int) (s : List Char) :
    Except ReadFault (Number × List Char) := do
  let (up, s) := match s with
    | '+' :: rest => (true, rest)
    | '-' :: rest => (false, rest)
    | s => (true, s)
  let digits := s.takeWhile isDigit
  let rest := s.dropWhile isDigit
  if digits.isEmpty then
    if rest.isEmpty then throw .ended else throw .malformed
  let size := digits.foldl (fun acc c => acc * 10 + digitValue c) 0
  if size ≥ exponentBound ∧ up ∧ n ≠ 0 then throw .malformed
  if size ≥ exponentBound then
    return (.real (if positive then 0 else -0), rest)
  let x ← realOf positive n (if up then e + size else e - size)
  return (x, rest)

/-- What may follow the digits of a number that is a double. -/
def readPower (positive : Bool) (n : Nat) (e : Int) (s : List Char) :
    Except ReadFault (Number × List Char) :=
  match s with
  | 'e' :: rest | 'E' :: rest => readExponent positive n e rest
  | s => do
    let x ← realOf positive n e
    return (x, s)

/-- The digits after the point. At least one must stand there. -/
def readFraction (positive : Bool) (n : Nat) (e : Int) (s : List Char) :
    Except ReadFault (Number × List Char) := do
  let (m, taken, rest) := gather n s
  if (s.takeWhile isDigit).isEmpty then
    if s.isEmpty then throw .ended else throw .malformed
  readPower positive m (e - taken) (rest.dropWhile isDigit)

/-- An integer that fits a word, with its sign. Zero has no negative integer. -/
def integerOf (positive : Bool) (n : Nat) : Number :=
  if positive then .natural n
  else if n = 0 ∨ n > Number.negativeBound then .real (-Float.ofNat n)
  else .negative n

/-- A number after its sign. -/
def readUnsigned (positive : Bool) (s : List Char) :
    Except ReadFault (Number × List Char) :=
  match s with
  | [] => .error .ended
  | c :: _ =>
    if !isDigit c then .error .malformed
    else
      let (n, taken, rest) := gather 0 s
      if c = '0' ∧ taken > 1 then .error .malformed
      else
        let beyond := rest.takeWhile isDigit
        match rest.dropWhile isDigit with
        | '.' :: after => readFraction positive n beyond.length after
        | after =>
          if beyond.isEmpty ∧ after.head? ≠ some 'e' ∧ after.head? ≠ some 'E' then
            .ok (integerOf positive n, after)
          else readPower positive n beyond.length after

def readNumber (s : List Char) :
    Except ReadFault (Number × List Char) :=
  match s with
  | '-' :: rest => readUnsigned false rest
  | s => readUnsigned true s

/-- The rest of a run of digits that must not be empty. -/
def skipDigits (s : List Char) : Except ReadFault (Unit × List Char) :=
  if (s.takeWhile isDigit).isEmpty then .error .malformed else .ok ((), s.dropWhile isDigit)

def skipExponent (s : List Char) : Except ReadFault (Unit × List Char) :=
  match s with
  | 'e' :: rest | 'E' :: rest =>
    match rest with
    | '+' :: rest | '-' :: rest => skipDigits rest
    | rest => skipDigits rest
  | s => .ok ((), s)

/-- The text of a number that nobody asked for. Its size plays no part, and one that breaks
off is malformed even at the end of the text. -/
def skipNumber (s : List Char) : Except ReadFault (Unit × List Char) := do
  let s := match s with
    | '-' :: rest => rest
    | s => s
  let ((), rest) ← skipDigits s
  if s.head? = some '0' ∧ (s.takeWhile isDigit).length > 1 then throw .malformed
  match rest with
  | '.' :: rest => do
    let ((), rest) ← skipDigits rest
    skipExponent rest
  | rest => skipExponent rest

end RoutePlan.Json
