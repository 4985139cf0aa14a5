import RoutePlan.Regex.Escape

/-! # Bracketed classes

A class between brackets is a union of characters, ranges and classes, and two unions may be
intersected or subtracted. Classes nest, so the reader keeps the classes that are still open.
-/

namespace RoutePlan.Regex

open Text

inductive SetOperation where
  | inter
  | diff
  | symmDiff
deriving DecidableEq, Repr

def SetOperation.apply : SetOperation → CharSet → CharSet → CharSet
  | .inter => .inter
  | .diff => .diff
  | .symmDiff => .symmDiff

/-- A class that is being read: whether it is negated, an operation that waits for its right
side with its left side, and the union read so far. Heights count nesting. -/
structure OpenClass where
  negated : Bool
  pending : Option (SetOperation × CharSet × Nat) := none
  union : CharSet := .empty
  items : Nat := 0
  height : Nat := 0

namespace OpenClass

def push (k : OpenClass) (set : CharSet) (height : Nat := 0) : OpenClass :=
  { k with union := k.union.union set, items := k.items + 1, height := max k.height height }

/-- The union as an operand: two items or more make a level of their own. -/
def operandHeight (k : OpenClass) : Nat := if k.items ≤ 1 then k.height else k.height + 1

/-- Close the current union and apply the operation that waits for it. -/
def operand (f : Flags) (k : OpenClass) : CharSet × Nat :=
  match k.pending with
  | none => (k.union, k.operandHeight)
  | some (operation, left, height) =>
    (operation.apply (f.widen left) (f.widen k.union), max height k.operandHeight + 1)

def operate (f : Flags) (k : OpenClass) (operation : SetOperation) : OpenClass :=
  let (set, height) := k.operand f
  { negated := k.negated, pending := some (operation, set, height) }

def close? (f : Flags) (k : OpenClass) : Option (CharSet × Nat) := do
  let (set, height) := k.operand f
  return (← f.settle? k.negated (f.widen set), height + 1)

end OpenClass

/-- The classes of ASCII characters that have a name. -/
def namedClass? (name : List Char) : Option CharSet :=
  match String.ofList name with
  | "alnum" => some Char.isAlphanum
  | "alpha" => some Char.isAlpha
  | "ascii" => some (.between '\x00' '\x7f')
  | "blank" => some (.ofList [' ', '\t'])
  | "cntrl" => some fun c => c.toNat < 32 || c.toNat == 127
  | "digit" => some Char.isDigit
  | "graph" => some (.between '!' '~')
  | "lower" => some Char.isLower
  | "print" => some (.between ' ' '~')
  | "punct" => some fun c => CharSet.between '!' '~' c && !c.isAlphanum
  | "space" => some (.ofList [' ', '\t', '\n', '\x0b', '\x0c', '\r'])
  | "upper" => some Char.isUpper
  | "word" => some isAsciiWordChar
  | "xdigit" => some fun c => (hexDigit? c).isSome
  | _ => none

/-- A named class inside a class, as in `[[:digit:]]`. -/
def readNamed (f : Flags) (cs : List Char) : Option (Option CharSet × List Char) :=
  match cs with
  | ':' :: rest =>
    let (negated, rest) := match rest with
      | '^' :: rest => (true, rest)
      | _ => (false, rest)
    match rest.dropWhile (· != ':') with
    | ':' :: ']' :: after =>
      (namedClass? (rest.takeWhile (· != ':'))).map fun set =>
        (f.settle? negated (f.widen set), after)
    | _ => none
  | _ => none

/-- The start of a class after its bracket: a negation, then literal hyphens, then a closing
bracket that stands for itself. -/
def readOpening (f : Flags) (cs : List Char) : OpenClass × List Char :=
  let cs := f.skip cs
  let (negated, cs) := match cs with
    | '^' :: rest => (true, f.skip rest)
    | _ => (false, cs)
  hyphens { negated } cs cs.length
where
  hyphens (k : OpenClass) (cs : List Char) : Nat → OpenClass × List Char
    | 0 => (k, cs)
    | fuel + 1 =>
      match cs with
      | '-' :: rest => hyphens (k.push (.single '-')) (f.skip rest) fuel
      | ']' :: rest => if k.items = 0 then (k.push (.single ']'), f.skip rest) else (k, cs)
      | _ => (k, cs)

inductive ClassItem where
  | literal (c : Char)
  | set (s : CharSet)

/-- One side of a range, or an item of its own. Assertions are none. -/
def readItem (f : Flags) : List Char → Option (ClassItem × List Char)
  | [] => none
  | '\\' :: rest => do
    match ← readEscape f rest with
    | (.literal c _, rest) =>
      if f.unicode || c.toNat < 128 then some (.literal c, rest) else none
    | (.set s, rest) => some (.set s, rest)
    | (.look _, _) => none
  | c :: rest => if f.unicode || c.toNat < 128 then some (.literal c, rest) else none

/-- An item or a range of two literals. A hyphen before a closing bracket or before another
hyphen makes no range. -/
def readRange (f : Flags) (cs : List Char) : Option (CharSet × List Char) := do
  let (first, rest) ← readItem f cs
  let alone : CharSet := match first with
    | .literal c => .single c
    | .set s => s
  match f.skip rest with
  | [] => none
  | '-' :: after =>
    match f.skip after with
    | ']' :: _ | '-' :: _ => some (alone, f.skip rest)
    | after => do
      let (last, rest) ← readItem f after
      match first, last with
      | .literal lo, .literal hi => if lo ≤ hi then some (.between lo hi, rest) else none
      | _, _ => none
  | rest => some (alone, rest)

/-- Read on inside the innermost open class; the classes around it come after it. -/
def readClasses (f : Flags) : Nat → OpenClass → List OpenClass → List Char →
    Option (CharSet × Nat × List Char)
  | 0, _, _, _ => none
  | fuel + 1, k, outer, cs =>
    match f.skip cs with
    | [] => none
    | '[' :: rest =>
      match readNamed f rest with
      | some (set?, rest) => do readClasses f fuel (k.push (← set?)) outer rest
      | none =>
        let (inner, rest) := readOpening f rest
        readClasses f fuel inner (k :: outer) rest
    | ']' :: rest => do
      let (set, height) ← k.close? f
      match outer with
      | [] => some (set, height, rest)
      | k :: outer => readClasses f fuel (k.push set height) outer rest
    | '&' :: '&' :: rest => readClasses f fuel (k.operate f .inter) outer rest
    | '-' :: '-' :: rest => readClasses f fuel (k.operate f .diff) outer rest
    | '~' :: '~' :: rest => readClasses f fuel (k.operate f .symmDiff) outer rest
    | cs => do
      let (set, rest) ← readRange f cs
      readClasses f fuel (k.push set) outer rest

/-- A class after its opening bracket: its set, its height and the rest of the pattern. -/
def readClass (f : Flags) (cs : List Char) : Option (CharSet × Nat × List Char) :=
  let (k, rest) := readOpening f cs
  readClasses f (rest.length + 1) k [] rest

end RoutePlan.Regex
