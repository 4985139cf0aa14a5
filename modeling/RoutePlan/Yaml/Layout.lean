import RoutePlan.Yaml.Block
import RoutePlan.Yaml.Tag

/-! # Layout of YAML text

The tokens of a text. Outside brackets the structure follows the indentation: a block opens
where a line is indented further than the block around it, and closes where one is indented
less. Whether something is a key shows only at the colon behind it, so every place where a
key may begin is remembered as a candidate until the line ends, and the marks of the key and
of its block are put in front of it when the colon is found.
-/

namespace RoutePlan.Yaml

/-- A place where a key may have begun. -/
structure Candidate where
  /-- The tokens before it. -/
  tokens : Nat
  line : Nat
  column : Nat
  index : Nat
  /-- Whether it has to become a key, as nothing else may stand at its indentation. -/
  required : Bool

/-- The reader of tokens between two tokens. -/
structure Layout where
  cursor : Cursor
  /-- The tokens found so far, last first. -/
  tokens : List Token := []
  /-- The indentation of the innermost block, or `-1` outside all blocks. -/
  indent : Int := -1
  /-- The indentations around it. -/
  outer : List Int := []
  candidate : Option Candidate := none
  /-- The candidates outside each open bracket, innermost first. -/
  enclosing : List (Option Candidate) := []
  keyAllowed : Bool := true

namespace Layout

/-- Whether a bracket is open. -/
def flow (l : Layout) : Bool := !l.enclosing.isEmpty

def push (l : Layout) (t : Token) : Layout := { l with tokens := t :: l.tokens }

def move (l : Layout) (c : Cursor) : Layout := { l with cursor := c }

/-- Push a token of the given length and pass it. -/
def take (l : Layout) (n : Nat) (t : Token) : Layout := (l.push t).move (l.cursor.skip n)

/-- Put tokens behind the first `n` tokens. -/
def insert (l : Layout) (n : Nat) (ts : List Token) : Layout :=
  let later := l.tokens.length - n
  { l with tokens := l.tokens.take later ++ ts.reverse ++ l.tokens.drop later }

/-- A candidate may be given up unless it is required. -/
def dismiss (l : Layout) : Option Layout :=
  if l.candidate.any (·.required) then none else some { l with candidate := none }

/-- A key stands on one line and is not longer than this. -/
def keyLength : Nat := 1024

def stale (c : Cursor) (k : Candidate) : Bool := k.line < c.line || k.index + keyLength < c.index

/-- Give up the candidates, inside all brackets, that are too far behind. -/
def dismissStale (l : Layout) : Option Layout := do
  let check (k : Option Candidate) : Option (Option Candidate) :=
    match k with
    | none => some none
    | some k =>
      if stale l.cursor k then if k.required then none else some none else some (some k)
  let candidate ← check l.candidate
  let enclosing ← l.enclosing.mapM check
  return { l with candidate, enclosing }

/-- Remember that a key may begin here. -/
def nominate (l : Layout) : Option Layout :=
  if l.keyAllowed then do
    let cleared ← l.dismiss
    return { cleared with
      candidate := some {
        tokens := l.tokens.length
        line := l.cursor.line
        column := l.cursor.column
        index := l.cursor.index
        required := !l.flow && l.indent == l.cursor.column } }
  else some l

/-- Open a block indented by `column` behind the first `n` tokens, unless one is open. -/
def openBlock (l : Layout) (column n : Nat) (t : Token) : Layout :=
  if !l.flow && l.indent < column then
    { l.insert n [t] with indent := column, outer := l.indent :: l.outer }
  else l

/-- Close the blocks indented further than `column`. -/
def closeBlocks (column : Int) : List Int → Layout → Layout
  | [], l => l
  | next :: outer, l =>
    if l.indent > column then
      closeBlocks column outer { l.push .blockEnd with indent := next, outer }
    else l

def unwind (l : Layout) (column : Int) : Layout :=
  if l.flow then l else closeBlocks column l.outer l

/-- Pass blanks, comments and line breaks. A tab may not stand where a key could begin. After
a line break outside brackets a key may begin. -/
def passGap (l : Layout) : Nat → Layout
  | 0 => l
  | fuel + 1 =>
    let c := l.cursor
    let c := if c.index == 0 && c.stands '\ufeff' then c.skip 1 else c
    let (_, c) := c.pass fun x => x == ' ' || x == '\t' && (l.flow || !l.keyAllowed)
    let c := if c.stands '#' then (c.pass fun x => !isBreak x).2 else c
    match c.passBreak? with
    | some (_, c) => passGap { l.move c with keyAllowed := l.keyAllowed || !l.flow } fuel
    | none => l.move c

/-- A directive or a mark between documents closes all blocks. -/
def closeAll (l : Layout) : Option Layout := do
  let l ← (l.unwind (-1)).dismiss
  return { l with keyAllowed := false }

def openBracket (l : Layout) (t : Token) : Option Layout := do
  let l ← l.nominate
  return ({ l with
    enclosing := l.candidate :: l.enclosing, candidate := none, keyAllowed := true }).take 1 t

def closeBracket (l : Layout) (t : Token) : Option Layout := do
  let l ← l.dismiss
  let l := match l.enclosing with
    | [] => l
    | candidate :: enclosing => { l with candidate, enclosing }
  return ({ l with keyAllowed := false }).take 1 t

def comma (l : Layout) : Option Layout := do
  let l ← l.dismiss
  return ({ l with keyAllowed := true }).take 1 .comma

def item (l : Layout) : Option Layout := do
  if !l.flow && !l.keyAllowed then none
  let l ← (l.openBlock l.cursor.column l.tokens.length .blockListStart).dismiss
  return ({ l with keyAllowed := true }).take 1 .item

/-- A question mark before a key. -/
def key (l : Layout) : Option Layout := do
  if !l.flow && !l.keyAllowed then none
  let l ← (l.openBlock l.cursor.column l.tokens.length .blockMappingStart).dismiss
  return ({ l with keyAllowed := !l.flow }).take 1 .key

/-- A colon. Before it stands the candidate, or a key after a question mark, or nothing. -/
def value (l : Layout) : Option Layout :=
  match l.candidate with
  | some k =>
    let l := (l.insert k.tokens [.key]).openBlock k.column k.tokens .blockMappingStart
    some (({ l with candidate := none, keyAllowed := false }).take 1 .value)
  | none =>
    if l.flow then some (({ l with keyAllowed := false }).take 1 .value)
    else if !l.keyAllowed then none
    else
      let l := l.openBlock l.cursor.column l.tokens.length .blockMappingStart
      some (({ l with keyAllowed := true }).take 1 .value)

/-- A token that may begin a key, read from behind its first `n` characters. -/
def word {α : Type} (l : Layout) (n : Nat) (read : Cursor → Option (α × Cursor))
    (token : α → Token) : Option Layout := do
  let l ← l.nominate
  let (x, c) ← read (l.cursor.skip n)
  return ({ l.push (token x) with keyAllowed := false }).move c

def block (l : Layout) (literal : Bool) : Option Layout := do
  let l ← l.dismiss
  let (text, c) ← readBlock literal l.indent (l.cursor.skip 1)
  return ({ l.push (.scalar false text) with keyAllowed := true }).move c

def plain (l : Layout) : Option Layout := do
  let l ← l.nominate
  let (text, c, broken) ←
    readPlain (l.indent + 1) l.flow (l.cursor.rest.length + 1) l.cursor [] []
  return ({ l.push (.scalar true text) with keyAllowed := broken }).move c

/-- Characters that begin no plain text. Three of them do where they are not followed as
their other use asks. -/
def isIndicator (c : Char) : Bool := "-?:,[]\x7b\x7d#&*!|>'\"%@`".toList.contains c

def startsPlain (flow : Bool) (c : Char) (rest : List Char) : Bool :=
  !(isGap c || isIndicator c) || c == '-' && !rest.head?.any isBlank ||
    !flow && (c == '?' || c == ':') && !endsWord rest

/-- The next token, which begins with `first`. -/
def next (l : Layout) (first : Char) (rest : List Char) : Option Layout :=
  let c := l.cursor
  let alone := endsWord rest
  if c.column = 0 ∧ first = '%' then do
    let l ← l.closeAll
    let (t, c) ← readDirective (c.skip 1)
    return (l.push t).move c
  else if c.marks '-' then do return (← l.closeAll).take 3 .documentStart
  else if c.marks '.' then do return (← l.closeAll).take 3 .documentEnd
  else if first = '[' then l.openBracket .listStart
  else if first = '\x7b' then l.openBracket .mappingStart
  else if first = ']' then l.closeBracket .listEnd
  else if first = '\x7d' then l.closeBracket .mappingEnd
  else if first = ',' then l.comma
  else if first = '-' ∧ alone then l.item
  else if first = '?' ∧ (l.flow ∨ alone) then l.key
  else if first = ':' ∧ (l.flow ∨ alone) then l.value
  else if first = '*' then l.word 1 readAnchor .alias
  else if first = '&' then l.word 1 readAnchor .anchor
  else if first = '!' then l.word 0 (readTag l.flow) .tag
  else if first = '|' ∧ !l.flow then l.block true
  else if first = '>' ∧ !l.flow then l.block false
  else if first = '\'' ∨ first = '"' then
    l.word 1 (fun c => readQuoted first (c.rest.length + 1) c []) (.scalar false)
  else if startsPlain l.flow first rest then l.plain
  else none

/-- The tokens to the end of the text. -/
def run : Nat → Layout → Option (List Token)
  | 0, _ => none
  | fuel + 1, l => do
    let l ← (l.passGap (l.cursor.rest.length + 1)).dismissStale
    let l := l.unwind l.cursor.column
    match l.cursor.rest with
    | [] => return (← (l.unwind (-1)).dismiss).tokens.reverse
    | first :: rest => run fuel (← l.next first rest)

end Layout

/-- The tokens of a text, which may hold allowed characters only. -/
def tokens (text : String) : Option (List Token) :=
  let cs := text.toList
  if cs.all isAllowed then Layout.run (cs.length + 2) { cursor := { rest := cs } } else none

end RoutePlan.Yaml
