import RoutePlan.Json.Value

/-! # What plain YAML texts stand for

A text that is not quoted and has no tag may stand for null, a truth value or a number. An
integer too long for a machine word but not for a double word has no value at all; a longer
one is a double.
-/

namespace RoutePlan.Yaml

open Json (Number Value)

def isNull (s : String) : Bool := ["~", "null", "Null", "NULL"].contains s

def bool? (s : String) : Option Bool :=
  if ["true", "True", "TRUE"].contains s then some true
  else if ["false", "False", "FALSE"].contains s then some false
  else none

def isDigit (c : Char) : Bool := '0' ≤ c && c ≤ '9'

def isSign (c : Char) : Bool := c == '+' || c == '-'

/-- A digit of a number in the given base, where letters go on after nine. -/
def digitIn? (base : Nat) (c : Char) : Option Nat :=
  let value? :=
    if isDigit c then some (c.toNat - 48)
    else if 'a' ≤ c ∧ c ≤ 'f' then some (c.toNat - 87)
    else if 'A' ≤ c ∧ c ≤ 'F' then some (c.toNat - 55)
    else none
  value?.filter (· < base)

def natural? (base : Nat) (digits : List Char) : Option Nat :=
  if digits.isEmpty then none
  else digits.foldlM (fun n c => do return n * base + (← digitIn? base c)) 0

/-- Digits after a superfluous zero, which are a text. -/
def isPadded (s : List Char) : Bool :=
  let digits := match s with
    | c :: rest => if isSign c then rest else s
    | [] => []
  digits.length > 1 && digits.head? == some '0' && digits.all isDigit

/-- The magnitude of an unsigned integer; the base may be written before it. -/
def magnitude? : List Char → Option Nat
  | '0' :: 'x' :: digits => natural? 16 digits
  | '0' :: 'o' :: digits => natural? 8 digits
  | '0' :: 'b' :: digits => natural? 2 digits
  | digits => natural? 10 digits

/-- An integer with its sign: whether it is negative, and its magnitude. -/
def integer? (s : List Char) : Option (Bool × Nat) :=
  if isPadded s then none
  else
    match s with
    | '-' :: rest => (magnitude? rest).map (true, ·)
    | '+' :: rest => (magnitude? rest).map (false, ·)
    | s => (magnitude? s).map (false, ·)

/-- How an integer is represented, if it is short enough. -/
inductive Sized where
  | word (n : Number)
  | doubleWord
  | longer

def sized (negative : Bool) (n : Nat) : Sized :=
  if !negative then
    if n < Number.naturalBound then .word (.natural n)
    else if n < 1 <<< 128 then .doubleWord
    else .longer
  else if n = 0 then .word (.natural 0)
  else if n ≤ Number.negativeBound then .word (.negative n)
  else if n ≤ 1 <<< 127 then .doubleWord
  else .longer

/-- The number `digits * 10 ^ e`, or nothing if it is beyond the doubles. -/
def real? (digits : List Char) (e : Int) : Option Float :=
  let n := digits.foldl (fun n c => n * 10 + (c.toNat - 48)) 0
  let size : Int := (Nat.toDigits 10 n).length + e
  if n = 0 ∨ size < -400 then some 0
  else if size > 400 then none
  else
    let x := Float.ofScientific n (e < 0) e.natAbs
    if x.isInf then none else some x

/-- A decimal number with a point or an exponent, or both, or neither. -/
def unsignedDecimal? (s : List Char) : Option Float := do
  let whole := s.takeWhile isDigit
  let s := s.dropWhile isDigit
  let (places, s) := match s with
    | '.' :: rest => (rest.takeWhile isDigit, rest.dropWhile isDigit)
    | s => ([], s)
  if whole.isEmpty && places.isEmpty then none
  let e ← match s with
    | [] => some 0
    | mark :: rest =>
      if mark = 'e' ∨ mark = 'E' then
        match rest with
        | '-' :: digits => (natural? 10 digits).map fun n => -(n : Int)
        | '+' :: digits => (natural? 10 digits).map Int.ofNat
        | digits => (natural? 10 digits).map Int.ofNat
      else none
  real? (whole ++ places) (e - places.length)

/-- A number with its sign. Infinities and what is no number at all are null in the tree. -/
def decimal? (s : List Char) : Option Value :=
  let number (negative : Bool) (digits : List Char) : Option Value :=
    (unsignedDecimal? digits).map fun x => .number (.real (if negative then -x else x))
  let infinity (digits : List Char) : Bool :=
    [".inf", ".Inf", ".INF"].contains (String.ofList digits)
  match s with
  | '-' :: rest => if infinity rest then some .null else number true rest
  | '+' :: rest => if infinity rest then some .null else number false rest
  | s =>
    if infinity s || [".nan", ".NaN", ".NAN"].contains (String.ofList s) then some .null
    else number false s

/-- The value of an integer: nothing if the text is none, and no value if it is out of
range. -/
def integerValue? (s : List Char) : Option (Option Value) :=
  match integer? s with
  | none => none
  | some (negative, n) =>
    match sized negative n with
    | .word n => some (some (.number n))
    | .doubleWord => some none
    | .longer => none

def plainValue (s : String) : Option Value :=
  if s.isEmpty || isNull s then some .null
  else
    match bool? s, integerValue? s.toList with
    | some b, _ => some (.bool b)
    | none, some v => v
    | none, none =>
      if isPadded s.toList then some (.text s) else some ((decimal? s.toList).getD (.text s))

/-- The value of a text with a tag. Four tags ask for a value of their kind, a local tag has
none, and any other makes a text. -/
def taggedValue (tag s : String) : Option Value :=
  if tag = "tag:yaml.org,2002:bool" then (bool? s).map .bool
  else if tag = "tag:yaml.org,2002:int" then (integerValue? s.toList).join
  else if tag = "tag:yaml.org,2002:float" then decimal? s.toList
  else if tag = "tag:yaml.org,2002:null" then if isNull s then some .null else none
  else if tag.toList.head? = some '!' then none
  else some (.text s)

end RoutePlan.Yaml
