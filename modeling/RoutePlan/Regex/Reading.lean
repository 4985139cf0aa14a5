import RoutePlan.Regex.Bracket

/-! # Reading patterns

A pattern is read from left to right, with the groups that are still open kept aside. Each
step consumes at least one character. What is not a pattern has no reading.
-/

namespace RoutePlan.Regex

open Text

/-- The greatest depth to which the parts of a pattern may nest. -/
def nestLimit : Nat := 250

/-- An item of a sequence: a change of flags, which cannot be repeated, or an expression
with the height of its nesting. -/
inductive Item where
  | flags
  | expr (e : Expr) (height : Nat)

/-- A branch of a group: its expression and its height. -/
abbrev Branch := Expr × Nat

/-- The branch that items form, given last item first. -/
def Branch.ofItems (items : List Item) : Branch :=
  let exprs := items.reverse.filterMap fun
    | .flags => none
    | .expr e _ => some e
  let height := items.foldl (fun h item => match item with
    | .flags => h
    | .expr _ height => max h height) 0
  (Expr.seqAll exprs, if items.length ≤ 1 then height else height + 1)

/-- The choice between branches, given last branch first. -/
def Branch.choice (branches : List Branch) : Branch :=
  let height := branches.foldl (fun h b => max h b.2) 0
  (Expr.altAll (branches.reverse.map (·.1)), if branches.length ≤ 1 then height else height + 1)

/-- What has been read of the innermost open group: closed branches and the items of the
open one, both last first. -/
structure Level where
  branches : List Branch := []
  items : List Item := []

def Level.push (l : Level) (e : Expr) (height : Nat := 0) : Level :=
  { l with items := .expr e height :: l.items }

def Level.pushFlags (l : Level) : Level := { l with items := .flags :: l.items }

def Level.split (l : Level) : Level := { branches := Branch.ofItems l.items :: l.branches }

def Level.close (l : Level) : Branch := Branch.choice (Branch.ofItems l.items :: l.branches)

/-- A level that waits for a group to close: the group's number, if it has one, and the
flags to go back to. -/
structure Waiting where
  level : Level
  number : Option Nat
  flags : Flags

structure Reading where
  flags : Flags := {}
  level : Level := {}
  outer : List Waiting := []
  groups : Nat := 0
  names : List (List Char) := []

namespace Reading

def push (r : Reading) (e : Expr) (height : Nat := 0) : Reading :=
  { r with level := r.level.push e height }

def openGroup (r : Reading) (number : Option Nat) (flags : Flags) : Reading :=
  { r with
    flags, level := {}, outer := ⟨r.level, number, r.flags⟩ :: r.outer,
    groups := match number with
      | some n => n
      | none => r.groups }

def closeGroup? (r : Reading) : Option Reading :=
  match r.outer with
  | [] => none
  | w :: outer =>
    let (body, height) := r.level.close
    let e := match w.number with
      | some n => .group n body
      | none => body
    some { r with flags := w.flags, level := w.level.push e (height + 1), outer }

/-- Repeat the last item; a `?` after the operator, or the flag for it, turns its greed. -/
def repeat? (r : Reading) (least : Nat) (most : Option Nat) (lazy : Bool) : Option Reading :=
  match r.level.items with
  | .expr e height :: items =>
    let e := e.repeated least most (lazy == r.flags.swapGreed)
    some { r with level := { r.level with items := .expr e (height + 1) :: items } }
  | _ => none

end Reading

def isNameStart (c : Char) : Bool := c == '_' || Property.isAlphabetic c

def isNamePart (c : Char) : Bool :=
  c == '_' || c == '.' || c == '[' || c == ']' || Property.isAlphabetic c ||
    (Category.of c).isNumber

/-- A group's name up to its closing angle. -/
def readName (cs : List Char) : Option (List Char × List Char) :=
  let name := cs.takeWhile (· != '>')
  match name, cs.dropWhile (· != '>') with
  | c :: more, '>' :: rest =>
    if isNameStart c && more.all isNamePart then some (name, rest) else none
  | _, _ => none

/-- Flags up to a colon or a closing parenthesis, which is given with the rest. Each flag
may be named once, and one hyphen, not at the end, turns the flags after it off. -/
def readFlags (f : Flags) (named : List Char) (turnedOff : Bool) :
    List Char → Option (Flags × Char × List Char)
  | [] => none
  | c :: rest =>
    if c = ':' ∨ c = ')' then
      if named.head? = some '-' ∨ (c = ')' ∧ named.isEmpty) then none else some (f, c, rest)
    else if named.contains c then none
    else if c = '-' then readFlags f (c :: named) true rest
    else do readFlags (← f.set? c !turnedOff) (c :: named) turnedOff rest

/-- What follows an opening parenthesis. -/
def readGroup (r : Reading) (cs : List Char) : Option (Reading × List Char) :=
  let named (cs : List Char) : Option (Reading × List Char) := do
    let (name, rest) ← readName cs
    if r.names.contains name then none
    else
      let r := { r with names := name :: r.names }
      return (r.openGroup (some (r.groups + 1)) r.flags, rest)
  match r.flags.skip cs with
  | '?' :: 'P' :: '<' :: rest => named rest
  | '?' :: '<' :: '=' :: _ | '?' :: '<' :: '!' :: _ => none
  | '?' :: '<' :: rest => named rest
  | '?' :: rest => do
    match ← readFlags r.flags [] false rest with
    | (flags, ')', rest) => return ({ r with flags, level := r.level.pushFlags }, rest)
    | (flags, _, rest) => return (r.openGroup none flags, rest)
  | cs => some (r.openGroup (some (r.groups + 1)) r.flags, cs)

/-- A count with blanks around it; it has to fit into thirty-two bits. -/
def readCount (f : Flags) (cs : List Char) : Option (Nat × List Char) :=
  digits 0 false (cs.dropWhile isBlank) cs.length
where
  digits (value : Nat) (some? : Bool) (cs : List Char) : Nat → Option (Nat × List Char)
    | 0 => finish value some? cs
    | fuel + 1 =>
      match cs with
      | c :: rest =>
        if c.isDigit then
          digits (10 * value + (c.toNat - '0'.toNat)) true (f.skip rest) fuel
        else finish value some? cs
      | [] => finish value some? cs
  finish (value : Nat) (some? : Bool) (cs : List Char) : Option (Nat × List Char) :=
    if some? && value < 1 <<< 32 then some (value, f.skip (cs.dropWhile isBlank)) else none

/-- What follows an opening brace: one count, or a least and perhaps a greatest one. -/
def readRepetition (f : Flags) (cs : List Char) : Option (Nat × Option Nat × List Char) := do
  let (least, rest) ← readCount f (f.skip cs)
  match rest with
  | '\x7d' :: rest => return (least, some least, f.skip rest)
  | ',' :: rest =>
    match f.skip rest with
    | '\x7d' :: rest => return (least, none, f.skip rest)
    | rest => do
      let (most, rest) ← readCount f rest
      match rest with
      | '\x7d' :: rest => if least ≤ most then return (least, some most, f.skip rest) else none
      | _ => none
  | _ => none

/-- Whether a `?` follows that makes a repetition lazy, and the rest. -/
def readLazy : List Char → Bool × List Char
  | '?' :: rest => (true, rest)
  | cs => (false, cs)

/-- The reading after the next piece of the pattern. -/
def readPiece (r : Reading) : List Char → Option (Reading × List Char)
  | [] => none
  | c :: rest =>
    let repeated (least : Nat) (most : Option Nat) (rest : List Char) :
        Option (Reading × List Char) := do
      let (lazy, rest) := readLazy rest
      return (← r.repeat? least most lazy, rest)
    match c with
    | '(' => readGroup r rest
    | ')' => r.closeGroup?.map (·, rest)
    | '|' => some ({ r with level := r.level.split }, rest)
    | '[' => (readClass r.flags rest).map fun (set, height, rest) =>
      (r.push (.chars set) height, rest)
    | '?' => repeated 0 (some 1) rest
    | '*' => repeated 0 none rest
    | '+' => repeated 1 none rest
    | '\x7b' => do
      let (least, most, rest) ← readRepetition r.flags rest
      repeated least most rest
    | '\\' => do
      match ← readEscape r.flags rest with
      | (.literal c byte, rest) =>
        if byte && !r.flags.unicode && c.toNat ≥ 128 then none
        else return (r.push (r.flags.literal c), rest)
      | (.set s, rest) => return (r.push (.chars s), rest)
      | (.look a, rest) => return (r.push (.look a), rest)
    | '.' => r.flags.dot?.map fun set => (r.push (.chars set), rest)
    | '^' => some (r.push (.look r.flags.lineStart), rest)
    | '$' => some (r.push (.look r.flags.lineEnd), rest)
    | c => some (r.push (r.flags.literal c), rest)

/-- Read to the end of the pattern. Since every piece is at least one character long, as
much fuel as there are characters is enough. -/
def readPieces : Nat → Reading → List Char → Option Reading
  | 0, _, _ => none
  | fuel + 1, r, cs =>
    match r.flags.skip cs with
    | [] => some r
    | c :: rest => do
      let (r, rest) ← readPiece r (c :: rest)
      readPieces fuel r rest

/-- The expression a pattern denotes. -/
def read? (cs : List Char) : Option Expr := do
  let r ← readPieces (cs.length + 1) {} cs
  if r.outer.isEmpty then
    let (e, height) := r.level.close
    if height ≤ nestLimit then some e else none
  else none

end RoutePlan.Regex
