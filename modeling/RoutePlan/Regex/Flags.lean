import RoutePlan.Text.Blank
import RoutePlan.Text.Digit
import RoutePlan.Text.Folding
import RoutePlan.Regex.Expr

/-! # Flags

The flags that are on where a piece of a pattern stands decide what the piece means: whether
letters match in either case, what the line anchors and the dot see, and whether the classes
are those of Unicode or of ASCII bytes.
-/

namespace RoutePlan.Regex

open Text

structure Flags where
  ignoreCase : Bool := false
  multiLine : Bool := false
  dotNewline : Bool := false
  swapGreed : Bool := false
  unicode : Bool := true
  crlf : Bool := false
  /-- Blanks and comments in the pattern are skipped. -/
  spaced : Bool := false
deriving DecidableEq, Repr

namespace Flags

/-- Set the flag a letter stands for. -/
def set? (f : Flags) (letter : Char) (value : Bool) : Option Flags :=
  match letter with
  | 'i' => some { f with ignoreCase := value }
  | 'm' => some { f with multiLine := value }
  | 's' => some { f with dotNewline := value }
  | 'U' => some { f with swapGreed := value }
  | 'u' => some { f with unicode := value }
  | 'R' => some { f with crlf := value }
  | 'x' => some { f with spaced := value }
  | _ => none

/-- The rest of a pattern after the blanks and comments that are skipped there. -/
def skipBlanks : List Char → List Char
  | [] => []
  | c :: rest =>
    if isBlank c then skipBlanks rest
    else if c = '#' then skipComment rest
    else c :: rest
where
  skipComment : List Char → List Char
    | [] => []
    | '\n' :: rest => skipBlanks rest
    | _ :: rest => skipComment rest

def skip (f : Flags) (cs : List Char) : List Char := if f.spaced then skipBlanks cs else cs

/-- A set widened by the variants of its letters, where case is ignored. -/
def widen (f : Flags) (set : CharSet) : CharSet :=
  if !f.ignoreCase then set
  else if f.unicode then set.closure Folding.variants
  else set.closure Folding.asciiVariants

/-- Byte classes must keep to ASCII, since a text is never cut inside a character. -/
def admits (f : Flags) (set : CharSet) : Bool :=
  f.unicode || (List.range 128).all fun i => !set (Char.ofNat (128 + i))

/-- A set as it is negated, if the flags admit the result. -/
def settle? (f : Flags) (negated : Bool) (set : CharSet) : Option CharSet :=
  let set := if negated then set.compl else set
  if f.admits set then some set else none

def literal (f : Flags) (c : Char) : Expr :=
  if f.unicode || c.toNat < 128 then .chars (f.widen (.single c)) else .chars (.single c)

def isDigit (f : Flags) : CharSet := if f.unicode then isDecimalDigit else isAsciiDigit

def isSpace (f : Flags) : CharSet :=
  if f.unicode then isBlank else .ofList [' ', '\t', '\n', '\x0b', '\x0c', '\r']

def isWord (f : Flags) : CharSet := if f.unicode then isWordChar else isAsciiWordChar

def lineStart (f : Flags) : Assertion :=
  if !f.multiLine then .textStart else if f.crlf then .crlfLineStart else .lineStart

def lineEnd (f : Flags) : Assertion :=
  if !f.multiLine then .textEnd else if f.crlf then .crlfLineEnd else .lineEnd

def dot? (f : Flags) : Option CharSet :=
  if !f.unicode then none
  else if f.dotNewline then some .full
  else if f.crlf then some (CharSet.ofList ['\r', '\n']).compl
  else some (CharSet.single '\n').compl

end Flags
end RoutePlan.Regex
