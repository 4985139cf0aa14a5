import RoutePlan.Yaml.Cursor

/-! # YAML scalars within lines

Plain and quoted texts. Both may run over several lines; a single line break in them is read
as a space, and more breaks lose the first.
-/

namespace RoutePlan.Yaml

/-- The line breaks in a gap, as a text holds them. -/
def lineBreaks : List Char → List Char
  | [] => []
  | '\r' :: '\n' :: more => '\n' :: lineBreaks more
  | c :: more =>
    if c = '\u2028' ∨ c = '\u2029' then c :: lineBreaks more
    else if isBreak c then '\n' :: lineBreaks more
    else lineBreaks more

/-- What a gap between two words is read as. A break that was escaped takes the blanks after
it with it. -/
def gapText (escaped : Bool) (gap : List Char) : List Char :=
  match escaped, lineBreaks gap with
  | true, breaks => breaks
  | false, [] => gap
  | false, first :: more =>
    if first = '\n' then if more.isEmpty then [' '] else more else first :: more

def isFlowMark (c : Char) : Bool := ",[]\x7b\x7d".toList.contains c

/-- The characters of a plain text up to a gap or to what ends it. Inside brackets a colon
may not stand before a mark. -/
def plainRun (flow : Bool) : List Char → Option (List Char)
  | [] => some []
  | c :: rest =>
    if isGap c then some []
    else if c = ':' ∧ flow ∧ rest.head?.any (fun d => isFlowMark d || d == '?') then none
    else if c = ':' ∧ endsWord rest then some []
    else if flow ∧ isFlowMark c then some []
    else (plainRun flow rest).map (c :: ·)

/-- Whether no tab stands in the indentation after a break. -/
def tabsFit (least : Int) : Option Nat → List Char → Bool
  | _, [] => true
  | column, c :: rest =>
    if isBreak c then tabsFit least (some 0) rest
    else
      match column with
      | none => tabsFit least none rest
      | some n => !(c == '\t' && (n : Int) < least) && tabsFit least (some (n + 1)) rest

/-- A plain text with the cursor behind it and behind the gap after it. The flag tells
whether that gap breaks the line. Outside brackets lines must be indented by `least`. -/
def readPlain (least : Int) (flow : Bool) :
    Nat → Cursor → List Char → List Char → Option (String × Cursor × Bool)
  | 0, _, _, _ => none
  | fuel + 1, c, text, gap =>
    if c.atMark || c.stands '#' then some (String.ofList text, c, gap.any isBreak)
    else do
      let run ← plainRun flow c.rest
      let (text, gap) := if run.isEmpty then (text, gap) else (text ++ gapText false gap ++ run, [])
      let c := c.advance run
      let (next, after) := c.pass isGap
      if next.isEmpty then return (String.ofList text, c, gap.any isBreak)
      if !tabsFit least none next then none
      if !flow && (after.column : Int) < least then
        return (String.ofList text, after, next.any isBreak)
      readPlain least flow fuel after text next

/-- A piece of a quoted text up to a gap or the closing quote: what it is read as, the rest,
and whether it ends with an escaped break. -/
structure Piece where
  text : List Char
  rest : List Char
  escaped : Bool := false

def Piece.cons (c : Char) (p : Piece) : Piece := { p with text := c :: p.text }

def singlePiece : List Char → Piece
  | [] => ⟨[], [], false⟩
  | '\'' :: '\'' :: rest => (singlePiece rest).cons '\''
  | '\'' :: rest => ⟨[], '\'' :: rest, false⟩
  | c :: rest => if isGap c then ⟨[], c :: rest, false⟩ else (singlePiece rest).cons c

/-- The character that a letter after a backslash stands for. -/
def escapedChar? (c : Char) : Option Char :=
  ([('0', '\x00'), ('a', '\x07'), ('b', '\x08'), ('t', '\t'), ('\t', '\t'), ('n', '\n'),
    ('v', '\x0b'), ('f', '\x0c'), ('r', '\r'), ('e', '\x1b'), (' ', ' '), ('"', '"'), ('/', '/'),
    ('\\', '\\'), ('N', '\u0085'), ('_', '\u00a0'), ('L', '\u2028'), ('P', '\u2029')] :
    List (Char × Char)).lookup c

/-- How many hexadecimal digits follow such a letter. -/
def escapeLength? (c : Char) : Option Nat :=
  match c with
  | 'x' => some 2
  | 'u' => some 4
  | 'U' => some 8
  | _ => none

def hexValue? (c : Char) : Option Nat :=
  if '0' ≤ c ∧ c ≤ '9' then some (c.toNat - 48)
  else if 'a' ≤ c ∧ c ≤ 'f' then some (c.toNat - 87)
  else if 'A' ≤ c ∧ c ≤ 'F' then some (c.toNat - 55)
  else none

/-- A number of exactly so many digits. -/
def readHex : Nat → Nat → List Char → Option (Nat × List Char)
  | 0, n, rest => some (n, rest)
  | _ + 1, _, [] => none
  | more + 1, n, c :: rest => do readHex more (n * 16 + (← hexValue? c)) rest

/-- The character with this code, which may not be half of a pair. -/
def charOfCode? (n : Nat) : Option Char :=
  if n.isValidChar then some (Char.ofNat n) else none

def doublePiece : Nat → List Char → Option Piece
  | 0, _ => none
  | _ + 1, [] => some ⟨[], [], false⟩
  | _ + 1, '"' :: rest => some ⟨[], '"' :: rest, false⟩
  | _ + 1, ['\\'] => none
  | _ + 1, '\\' :: '\r' :: '\n' :: rest => some ⟨[], rest, true⟩
  | fuel + 1, '\\' :: c :: rest =>
    if isBreak c then some ⟨[], rest, true⟩
    else
      match escapedChar? c, escapeLength? c with
      | some d, _ => do return (← doublePiece fuel rest).cons d
      | none, some length => do
        let (n, rest) ← readHex length 0 rest
        return (← doublePiece fuel rest).cons (← charOfCode? n)
      | none, none => none
  | fuel + 1, c :: rest =>
    if isGap c then some ⟨[], c :: rest, false⟩
    else do return (← doublePiece fuel rest).cons c

/-- A quoted text, after its opening quote. -/
def readQuoted (quote : Char) : Nat → Cursor → List Char → Option (String × Cursor)
  | 0, _, _ => none
  | fuel + 1, c, text =>
    if c.atMark || c.rest.isEmpty then none
    else do
      let piece ← if quote = '"' then doublePiece (c.rest.length + 1) c.rest
        else some (singlePiece c.rest)
      let c := c.seek piece.rest
      if c.stands quote then return (String.ofList (text ++ piece.text), c.skip 1)
      let (gap, after) := c.pass isGap
      readQuoted quote fuel after (text ++ piece.text ++ gapText piece.escaped gap)

end RoutePlan.Yaml
