import RoutePlan.Decimal.Shortest

/-! # Decimal text of a double

A double is written with its shortest digits: positionally where the exponent is moderate,
with at least one digit after the point, and in scientific notation elsewhere.
-/

namespace RoutePlan.Decimal

/-- The choices left open by the digits. -/
structure Style where
  /-- The exponents of the first digit that are written positionally. -/
  leastPositional : Int
  mostPositional : Int
  /-- The least number of digits of a written exponent. -/
  exponentDigits : Nat

/-- Exponents from -5 to 15 are positional; others are signed and have two digits or more. -/
def style64 : Style := ⟨-5, 15, 2⟩

def padLeft (n : Nat) (s : List Char) : List Char := List.replicate (n - s.length) '0' ++ s

def Scientific.write (style : Style) (s : Scientific) : List Char :=
  let digits := Nat.toDigits 10 s.digits
  let first : Int := s.exponent + digits.length - 1
  if style.leastPositional ≤ first ∧ first ≤ style.mostPositional then
    if first < 0 then "0.".toList ++ List.replicate (-first - 1).toNat '0' ++ digits
    else if s.exponent ≥ 0 then digits ++ List.replicate s.exponent.toNat '0' ++ ".0".toList
    else digits.take (first.toNat + 1) ++ '.' :: digits.drop (first.toNat + 1)
  else
    let mantissa := match digits with
      | [] => []
      | [d] => [d]
      | d :: more => d :: '.' :: more
    mantissa ++ ['e', if first < 0 then '-' else '+'] ++
      padLeft style.exponentDigits (Nat.toDigits 10 first.natAbs)

/-- The leading bit of a mantissa, which is not stored. -/
def hiddenBit : Nat := 1 <<< 52

/-- The text of a finite double. -/
def ofFloat (x : Float) : String :=
  let bits := x.toBits.toNat
  let sign := if bits >>> 63 = 1 then "-" else ""
  let biased : Nat := bits / hiddenBit % 2048
  let fraction : Nat := bits % hiddenBit
  if biased = 0 ∧ fraction = 0 then sign ++ "0.0"
  else
    let s := if biased = 0 then shortest fraction (-1074) false
      else shortest (hiddenBit + fraction) ((biased : Int) - 1075) (fraction == 0 && biased > 1)
    sign ++ String.ofList (s.write style64)

end RoutePlan.Decimal
