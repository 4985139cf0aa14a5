/-! # Shortest decimals

The shortest decimal that reads back as a given double. A double is taken apart into an
integer times a power of two; the decimals that read back as it fill an interval around it,
and the shortest grid of decimals with a point in that interval is used. Of two points the
nearer one wins, and of two equally near ones the even one.
-/

namespace RoutePlan.Decimal

/-- A positive number `digits * 10 ^ exponent`. -/
structure Scientific where
  digits : Nat
  exponent : Int
deriving DecidableEq, Repr

/-- The quotient of two products: `value / scale`, both positive. -/
structure Ratio where
  value : Nat
  scale : Nat
deriving Repr

def tenTo (n : Nat) : Nat := Nat.pow 10 n

/-- The largest power of ten not above a positive ratio. -/
def Ratio.order (r : Ratio) : Int :=
  if r.value ≥ r.scale then ((Nat.toDigits 10 (r.value / r.scale)).length : Int) - 1
  else
    let below := (Nat.toDigits 10 (r.scale / r.value)).length
    if r.value * tenTo (below - 1) ≥ r.scale then -((below : Int) - 1) else -(below : Int)

/-- The interval of reals that round to a double, as numerators over one scale. -/
structure Interval where
  low : Nat
  value : Nat
  high : Nat
  scale : Nat
  /-- Whether the ends themselves round to the double. -/
  closed : Bool
deriving Repr

/-- The interval around `mantissa * 2 ^ exponent`. At a power of two the spacing below is half
of the spacing above. -/
def Interval.ofDouble (mantissa : Nat) (exponent : Int) (narrowBelow : Bool) : Interval :=
  let unit := if exponent ≥ 2 then 1 <<< (exponent - 2).toNat else 1
  { low := (4 * mantissa - if narrowBelow then 1 else 2) * unit
    value := 4 * mantissa * unit
    high := (4 * mantissa + 2) * unit
    scale := if exponent ≥ 2 then 1 else 1 <<< (2 - exponent).toNat
    closed := mantissa % 2 == 0 }

/-- The point of the grid `n * 10 ^ exponent` that reads back, if there is one. -/
def Interval.point? (i : Interval) (exponent : Int) : Option Nat :=
  let up := if exponent < 0 then tenTo (-exponent).toNat else 1
  let step := i.scale * if exponent < 0 then 1 else tenTo exponent.toNat
  let below := i.value * up / step
  let inside (n : Nat) : Bool :=
    if i.closed then i.low * up ≤ n * step && n * step ≤ i.high * up
    else i.low * up < n * step && n * step < i.high * up
  let downward := i.value * up - below * step
  let upward := (below + 1) * step - i.value * up
  match inside below, inside (below + 1) with
  | true, true =>
    if downward < upward || (downward == upward && below % 2 == 0) then some below
    else some (below + 1)
  | true, false => some below
  | false, true => some (below + 1)
  | false, false => none

/-- Try one digit, two digits and so on; seventeen are always enough. -/
def Interval.search (i : Interval) (order : Int) (used : Nat) : Nat → Scientific
  | 0 => ⟨i.value / i.scale, 0⟩
  | fuel + 1 =>
    match i.point? (order - used) with
    | some n => ⟨n, order - used⟩
    | none => i.search order (used + 1) fuel

/-- Move trailing zeros into the exponent. -/
def Scientific.trim (s : Scientific) : Nat → Scientific
  | 0 => s
  | fuel + 1 =>
    if s.digits % 10 = 0 ∧ s.digits ≠ 0 then trim ⟨s.digits / 10, s.exponent + 1⟩ fuel else s

/-- The shortest decimal for `mantissa * 2 ^ exponent`, which is positive. -/
def shortest (mantissa : Nat) (exponent : Int) (narrowBelow : Bool) : Scientific :=
  let i := Interval.ofDouble mantissa exponent narrowBelow
  (i.search (Ratio.order ⟨i.value, i.scale⟩) 0 18).trim 20

end RoutePlan.Decimal
