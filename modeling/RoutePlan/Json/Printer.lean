import RoutePlan.Json.Fault

/-! # Printing JSON

A value over several lines: each item and each member stands on a line of its own, two
spaces further in than the container around it. Empty containers stay closed on one line.
A value may also be printed on a single line.
-/

namespace RoutePlan.Json

/-- Quotes, backslashes and control characters are escaped, by a letter where there is one. -/
def escapeChar (c : Char) : List Char :=
  match c with
  | '"' => ['\\', '"']
  | '\\' => ['\\', '\\']
  | '\x08' => ['\\', 'b']
  | '\x0c' => ['\\', 'f']
  | '\n' => ['\\', 'n']
  | '\r' => ['\\', 'r']
  | '\t' => ['\\', 't']
  | c =>
    if c.toNat < 0x20 then
      "\\u00".toList ++ [Nat.digitChar (c.toNat / 16), Nat.digitChar (c.toNat % 16)]
    else [c]

def printText (s : List Char) : List Char := '"' :: s.flatMap escapeChar ++ ['"']

def lineBreak (level : Nat) : List Char := '\n' :: List.replicate (2 * level) ' '

mutual

def Value.print (level : Nat) : Value → List Char
  | .null => "null".toList
  | .bool b => (if b then "true" else "false").toList
  | .number n => n.toText.toList
  | .text s => printText s.toList
  | .list [] => "[]".toList
  | .list (item :: items) =>
    '[' :: lineBreak (level + 1) ++ item.print (level + 1) ++ printItems (level + 1) items ++
      lineBreak level ++ [']']
  | .object [] => "\x7b\x7d".toList
  | .object ((key, value) :: members) =>
    '\x7b' :: lineBreak (level + 1) ++ printText key.toList ++ ": ".toList ++
      value.print (level + 1) ++ printMembers (level + 1) members ++ lineBreak level ++ ['\x7d']

/-- Each item after its comma. -/
def printItems (level : Nat) : List Value → List Char
  | [] => []
  | item :: items =>
    ',' :: lineBreak level ++ item.print level ++ printItems level items

def printMembers (level : Nat) : List (String × Value) → List Char
  | [] => []
  | (key, value) :: members =>
    ',' :: lineBreak level ++ printText key.toList ++ ": ".toList ++ value.print level ++
      printMembers level members

end

mutual

/-- A value on one line, without blanks. -/
def Value.printLine : Value → List Char
  | .null => "null".toList
  | .bool b => (if b then "true" else "false").toList
  | .number n => n.toText.toList
  | .text s => printText s.toList
  | .list items => '[' :: printLineItems items ++ [']']
  | .object members => '\x7b' :: printLineMembers members ++ ['\x7d']

def printLineItems : List Value → List Char
  | [] => []
  | [item] => item.printLine
  | item :: items => item.printLine ++ ',' :: printLineItems items

def printLineMembers : List (String × Value) → List Char
  | [] => []
  | [(key, value)] => printText key.toList ++ ':' :: value.printLine
  | (key, value) :: members =>
    printText key.toList ++ ':' :: value.printLine ++ ',' :: printLineMembers members

end

def Value.toLine (v : Value) : String := String.ofList v.printLine

def Value.toText (v : Value) : String := String.ofList (v.print 0)

end RoutePlan.Json
