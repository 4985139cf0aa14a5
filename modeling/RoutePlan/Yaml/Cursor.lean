/-! # Cursors in YAML text

A cursor is the text that is left with its place in the whole. Lines and columns matter in
YAML, so a cursor is only moved over characters it has looked at.
-/

namespace RoutePlan.Yaml

def isBreak (c : Char) : Bool :=
  c == '\n' || c == '\r' || c == '\u0085' || c == '\u2028' || c == '\u2029'

def isBlank (c : Char) : Bool := c == ' ' || c == '\t'

def isGap (c : Char) : Bool := isBlank c || isBreak c

/-- The characters a text may hold at all. -/
def isAllowed (c : Char) : Bool :=
  c == '\t' || c == '\n' || c == '\r' || ' ' ≤ c && c ≤ '~' || c == '\u0085' ||
    '\u00a0' ≤ c && c ≤ '\ufffd' || c.toNat ≥ 0x10000

/-- Whether a word ends before this text. -/
def endsWord : List Char → Bool
  | [] => true
  | c :: _ => isGap c

structure Cursor where
  rest : List Char
  line : Nat := 0
  column : Nat := 0
  /-- The characters before the cursor. -/
  index : Nat := 0
deriving Repr

namespace Cursor

/-- The next line begins after so many characters. -/
def nextLine (c : Cursor) (n : Nat) : Cursor where
  rest := c.rest.drop n
  line := c.line + 1
  index := c.index + n

def nextColumn (c : Cursor) : Cursor :=
  { c with rest := c.rest.drop 1, column := c.column + 1, index := c.index + 1 }

/-- Move over the given characters, which stand at the cursor. A carriage return and a line
feed end one line together. -/
def advance (c : Cursor) : List Char → Cursor
  | [] => c
  | '\r' :: '\n' :: more => (c.nextLine 2).advance more
  | x :: more => (if isBreak x then c.nextLine 1 else c.nextColumn).advance more

def skip (c : Cursor) (n : Nat) : Cursor := c.advance (c.rest.take n)

/-- Move to where `rest` begins, which is an end of the cursor's text. -/
def seek (c : Cursor) (rest : List Char) : Cursor := c.skip (c.rest.length - rest.length)

def pass (c : Cursor) (p : Char → Bool) : List Char × Cursor :=
  let cs := c.rest.takeWhile p
  (cs, c.advance cs)

def stands (c : Cursor) (x : Char) : Bool := c.rest.head? == some x

/-- Whether the line begins with three such characters as a word. -/
def marks (c : Cursor) (x : Char) : Bool :=
  c.column == 0 && c.rest.take 3 == [x, x, x] && endsWord (c.rest.drop 3)

/-- Whether a mark between documents stands here. -/
def atMark (c : Cursor) : Bool := c.marks '-' || c.marks '.'

/-- Pass one line break. In a text it counts as a line feed, save for the two separators. -/
def passBreak? (c : Cursor) : Option (Char × Cursor) :=
  match c.rest with
  | '\r' :: '\n' :: _ => some ('\n', c.skip 2)
  | x :: _ =>
    if x = '\u2028' ∨ x = '\u2029' then some (x, c.skip 1)
    else if isBreak x then some ('\n', c.skip 1)
    else none
  | [] => none

end Cursor
end RoutePlan.Yaml
