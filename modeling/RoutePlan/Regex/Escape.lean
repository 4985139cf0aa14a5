import RoutePlan.Regex.Flags
import RoutePlan.Text.Property

/-! # Escapes

What a backslash begins: a literal, a class, a property of characters or an assertion. Each
reader gives what it read and the rest of the pattern.
-/

namespace RoutePlan.Regex

open Text

inductive Escape where
  /-- A literal; a byte is one that is written by two hexadecimal digits. -/
  | literal (c : Char) (byte : Bool)
  | set (s : CharSet)
  | look (a : Assertion)

/-- Characters with a meaning of their own, which a backslash takes away. -/
def isMeta (c : Char) : Bool := "\\.+*?()|[]\x7b\x7d^$#&-~".toList.contains c

/-- ASCII characters that a backslash leaves as they are. -/
def isEscapable (c : Char) : Bool :=
  isMeta c || (c.toNat < 128 && !c.isAlphanum && c != '<' && c != '>')

def hexDigit? (c : Char) : Option Nat :=
  if c.isDigit then some (c.toNat - '0'.toNat)
  else if 'a' ≤ c ∧ c ≤ 'f' then some (c.toNat - 'a'.toNat + 10)
  else if 'A' ≤ c ∧ c ≤ 'F' then some (c.toNat - 'A'.toNat + 10)
  else none

def charOfNat? (n : Nat) : Option Char :=
  if n < 0xD800 ∨ 0xDFFF < n ∧ n < 0x110000 then some (Char.ofNat n) else none

/-- Exactly so many hexadecimal digits, among which skipped blanks may stand. -/
def readHexDigits (f : Flags) : Nat → Nat → List Char → Option (Nat × List Char)
  | 0, value, cs => some (value, f.skip cs)
  | n + 1, value, cs =>
    match f.skip cs with
    | [] => none
    | c :: rest => do
      let digit ← hexDigit? c
      readHexDigits f n (16 * value + digit) rest

/-- The characters up to a closing brace, less the blanks skipped, and the rest after it. -/
def readBraced (f : Flags) : Nat → List Char → Option (List Char × List Char)
  | 0, _ => none
  | fuel + 1, cs =>
    match f.skip cs with
    | [] => none
    | '\x7d' :: rest => some ([], rest)
    | c :: rest => (readBraced f fuel rest).map fun (inside, rest) => (c :: inside, rest)

def hexValue? (digits : List Char) : Option Nat :=
  if digits.isEmpty then none
  else digits.foldlM (fun value c => (hexDigit? c).map (16 * value + ·)) 0

/-- A code point after `x`, `u` or `U`. -/
def readHex (f : Flags) (length : Nat) (cs : List Char) : Option (Escape × List Char) :=
  match f.skip cs with
  | [] => none
  | '\x7b' :: rest => do
    let (inside, rest) ← readBraced f (rest.length + 1) rest
    let c ← charOfNat? (← hexValue? inside)
    return (.literal c false, f.skip rest)
  | cs => do
    let (value, rest) ← readHexDigits f length 0 cs
    let c ← charOfNat? value
    return (.literal c (length == 2), rest)

/-- A property after `p` or `P`, by one letter or by a name in braces. -/
def readProperty (f : Flags) (negated : Bool) (cs : List Char) :
    Option (Escape × List Char) := do
  let (query, rest) ← match f.skip cs with
    | [] => none
    | '\x7b' :: rest => readBraced f (rest.length + 1) rest
    | '\\' :: _ => none
    | c :: rest => some ([c], f.skip rest)
  if !f.unicode then none
  else
    let (reversed, set) ← Property.find? query
    let set ← f.settle? (negated != reversed) (f.widen set)
    return (.set set, rest)

/-- The special word boundaries, by the name between the braces. -/
def wordBoundary? (word : CharSet) (name : List Char) : Option Assertion :=
  match String.ofList name with
  | "start" => some (.wordStart word)
  | "end" => some (.wordEnd word)
  | "start-half" => some (.halfWordStart word)
  | "end-half" => some (.halfWordEnd word)
  | _ => none

/-- A word boundary, which braces after it may qualify unless they begin a repetition. -/
def readBoundary (f : Flags) (cs : List Char) : Option (Escape × List Char) :=
  match cs with
  | '\x7b' :: rest =>
    match f.skip rest with
    | [] => none
    | c :: _ =>
      if c.isAlpha || c = '-' then do
        let (inside, rest) ← readBraced f (rest.length + 1) rest
        let a ← wordBoundary? f.isWord inside
        return (.look a, rest)
      else some (.look (.boundary f.isWord), cs)
  | _ => some (.look (.boundary f.isWord), cs)

/-- What follows a backslash. -/
def readEscape (f : Flags) : List Char → Option (Escape × List Char)
  | [] => none
  | c :: rest =>
    let class? (negated : Bool) (set : CharSet) : Option (Escape × List Char) :=
      (f.settle? negated set).map fun set => (.set set, rest)
    match c with
    | 'x' => readHex f 2 rest
    | 'u' => readHex f 4 rest
    | 'U' => readHex f 8 rest
    | 'p' => readProperty f false rest
    | 'P' => readProperty f true rest
    | 'd' => class? false f.isDigit
    | 'D' => class? true f.isDigit
    | 's' => class? false f.isSpace
    | 'S' => class? true f.isSpace
    | 'w' => class? false f.isWord
    | 'W' => class? true f.isWord
    | 'a' => some (.literal '\x07' false, rest)
    | 'f' => some (.literal '\x0c' false, rest)
    | 't' => some (.literal '\t' false, rest)
    | 'n' => some (.literal '\n' false, rest)
    | 'r' => some (.literal '\r' false, rest)
    | 'v' => some (.literal '\x0b' false, rest)
    | 'A' => some (.look .textStart, rest)
    | 'z' => some (.look .textEnd, rest)
    | 'b' => readBoundary f rest
    | 'B' => some (.look (.notBoundary f.isWord), rest)
    | '<' => some (.look (.wordStart f.isWord), rest)
    | '>' => some (.look (.wordEnd f.isWord), rest)
    | c => if isEscapable c then some (.literal c false, rest) else none

end RoutePlan.Regex
