import RoutePlan.Json.Number
import RoutePlan.Json.Quoted

/-! # Reading JSON values

Any value may be read into a tree. Values may nest only so deep, and a container that goes
beyond is malformed. A value may also be skipped: then its leaves are checked less and there
is no limit of depth.
-/

namespace RoutePlan.Json

/-- How the leaves of a value are read: numbers from their sign on, strings after their
quote. -/
structure Lexis where
  number : List Char → Except ReadFault (Number × List Char)
  text : List Char → Except ReadFault (String × List Char)

def readText (s : List Char) : Except ReadFault (String × List Char) := do
  let (cs, rest) ← readChars s
  return (String.ofList cs, rest)

namespace Lexis

def strict : Lexis := ⟨readNumber, readText⟩

def lenient : Lexis where
  number s := do
    let ((), rest) ← skipNumber s
    return (.natural 0, rest)
  text s := do
    let ((), rest) ← skipChars s
    return ("", rest)

end Lexis

/-- The depth left inside one more container. -/
def enter (depth : Nat) : Except ReadFault Nat :=
  if depth ≤ 1 then .error .malformed else .ok (depth - 1)

def startsNumber (c : Char) : Bool := c == '-' || isDigit c

mutual

def Lexis.readValue (lexis : Lexis) :
    Nat → Nat → List Char → Except ReadFault (Value × List Char)
  | 0, _, _ => .error .malformed
  | fuel + 1, depth, s =>
    match skipBlanks s with
    | [] => .error .ended
    | 'n' :: rest => do
      let ((), rest) ← readWord "ull".toList rest
      return (.null, rest)
    | 't' :: rest => do
      let ((), rest) ← readWord "rue".toList rest
      return (.bool true, rest)
    | 'f' :: rest => do
      let ((), rest) ← readWord "alse".toList rest
      return (.bool false, rest)
    | '"' :: rest => do
      let (text, rest) ← lexis.text rest
      return (.text text, rest)
    | '[' :: rest => do
      let (items, rest) ← lexis.readItems fuel (← enter depth) true rest
      return (.list items, rest)
    | '\x7b' :: rest => do
      let (members, rest) ← lexis.readMembers fuel (← enter depth) true rest
      return (.object members, rest)
    | c :: rest =>
      if startsNumber c then do
        let (n, rest) ← lexis.number (c :: rest)
        return (.number n, rest)
      else .error .malformed

def Lexis.readItems (lexis : Lexis) :
    Nat → Nat → Bool → List Char → Except ReadFault (List Value × List Char)
  | 0, _, _, _ => .error .malformed
  | fuel + 1, depth, first, s => do
    let (more, s) ← atItem first s
    if more then
      let (item, s) ← lexis.readValue fuel depth s
      let (items, s) ← lexis.readItems fuel depth false s
      return (item :: items, s)
    else
      let ((), s) ← closeList s
      return ([], s)

def Lexis.readMembers (lexis : Lexis) :
    Nat → Nat → Bool → List Char → Except ReadFault (List (String × Value) × List Char)
  | 0, _, _, _ => .error .malformed
  | fuel + 1, depth, first, s => do
    let (more, s) ← atMember first s
    if more then
      let (key, s) ← lexis.text s
      let ((), s) ← readColon s
      let (value, s) ← lexis.readValue fuel depth s
      let (members, s) ← lexis.readMembers fuel depth false s
      return ((key, value) :: members, s)
    else return ([], s)

end

/-- One value with all that is in it. Every second call takes a character, which bounds the
calls. -/
def readValue (depth : Nat) (s : List Char) : Except ReadFault (Value × List Char) :=
  Lexis.strict.readValue (2 * s.length + 2) depth s

def skipValue (s : List Char) : Except ReadFault (Unit × List Char) := do
  let (_, rest) ← Lexis.lenient.readValue (2 * s.length + 2) (s.length + 2) s
  return ((), rest)

/-- The containers that may be open at once, counted with one more. -/
def depthLimit : Nat := 128

/-- A text that holds one value. -/
def parse (text : String) : Except ReadFault Value := do
  let (value, rest) ← readValue depthLimit text.toList
  closeText rest
  return value

end RoutePlan.Json
