import RoutePlan.Yaml.Cursor

/-! # YAML block scalars

Texts written as indented lines under their header. A literal text keeps its line breaks; in
a folded one a break between two lines that do not begin with a blank is read as a space.
-/

namespace RoutePlan.Yaml

/-- What is kept of the line breaks at the end. -/
inductive Chomp where
  | strip
  | clip
  | keep
deriving DecidableEq, Repr

structure BlockHeader where
  chomp : Chomp := .clip
  /-- The indentation relative to the block around, where it is given. -/
  indent : Option Nat := none

def Chomp.ofMark? (c : Char) : Option Chomp :=
  match c with
  | '+' => some .keep
  | '-' => some .strip
  | _ => none

/-- The marks after the indicator, in either order. An indentation of zero is refused. -/
def BlockHeader.read (c : Cursor) : Option (BlockHeader × Cursor) :=
  let digit (c : Cursor) : Option (Option Nat × Cursor) :=
    match c.rest with
    | d :: _ =>
      if d = '0' then none
      else if d.isDigit then some (some (d.toNat - 48), c.skip 1)
      else some (none, c)
    | [] => some (none, c)
  match c.rest.head?.bind Chomp.ofMark? with
  | some chomp => do
    let (indent, c) ← digit (c.skip 1)
    return (⟨chomp, indent⟩, c)
  | none => do
    let (indent, c) ← digit c
    match indent, c.rest.head?.bind Chomp.ofMark? with
    | some _, some chomp => return (⟨chomp, indent⟩, c.skip 1)
    | _, _ => return (⟨.clip, indent⟩, c)

/-- Pass the indentation and the empty lines before a line: the breaks passed, the widest
indentation seen, and the cursor. With no indentation known, all spaces are passed. -/
def passEmptyLines (indent : Option Nat) :
    Nat → Cursor → List Char → Nat → Option (List Char × Nat × Cursor)
  | 0, _, _, _ => none
  | fuel + 1, c, breaks, widest =>
    let spaces := (c.rest.takeWhile (· == ' ')).length
    let c := c.skip (match indent with
      | none => spaces
      | some n => min spaces (n - c.column))
    let widest := max widest c.column
    if (match indent with
      | none => true
      | some n => c.column < n) && c.stands '\t' then none
    else
      match c.passBreak? with
      | some (b, c) => passEmptyLines indent fuel c (breaks ++ [b]) widest
      | none => some (breaks, widest, c)

/-- A block text as it grows: what is settled, the break that ended the last line, and the
breaks of the empty lines after it. -/
structure BlockText where
  text : List Char := []
  ended : List Char := []
  empty : List Char := []
  /-- Whether the last line began with a blank. -/
  blank : Bool := false

/-- Settle the breaks before a line that begins with a blank or not. -/
def BlockText.join (literal blank : Bool) (b : BlockText) : List Char :=
  if !literal && b.ended.head? == some '\n' && !b.blank && !blank then
    b.text ++ if b.empty.isEmpty then [' '] else b.empty
  else b.text ++ b.ended ++ b.empty

/-- The lines at the given indentation. -/
def readLines (literal : Bool) (indent : Nat) :
    Nat → Cursor → BlockText → Option (BlockText × Cursor)
  | 0, _, _ => none
  | fuel + 1, c, b =>
    if c.column = indent ∧ !c.rest.isEmpty then do
      let blank := c.rest.head?.any isBlank
      let (line, c) := c.pass fun x => !isBreak x
      let (ended, c) := match c.passBreak? with
        | some (x, c) => ([x], c)
        | none => ([], c)
      let (empty, _, c) ← passEmptyLines (some indent) (c.rest.length + 1) c [] 0
      readLines literal indent fuel c ⟨b.join literal blank ++ line, ended, empty, blank⟩
    else some (b, c)

def BlockText.finish (chomp : Chomp) (b : BlockText) : String :=
  String.ofList (match chomp with
    | .strip => b.text
    | .clip => b.text ++ b.ended
    | .keep => b.text ++ b.ended ++ b.empty)

/-- A block text, after its indicator, inside a block indented by `outer`. Without an
indentation of its own it takes that of its first line, or more where an empty line before it
is longer. -/
def readBlock (literal : Bool) (outer : Int) (c : Cursor) : Option (String × Cursor) := do
  let (header, c) ← BlockHeader.read c
  let (_, c) := c.pass isBlank
  let c := if c.stands '#' then (c.pass fun x => !isBreak x).2 else c
  let c ← match c.passBreak? with
    | some (_, c) => some c
    | none => if c.rest.isEmpty then some c else none
  let given := header.indent.map fun n => n + outer.toNat
  let (empty, widest, c) ← passEmptyLines given (c.rest.length + 1) c [] 0
  let indent := given.getD (max (max widest (outer + 1).toNat) 1)
  let (text, c) ← readLines literal indent (c.rest.length + 1) c { empty }
  return (text.finish header.chomp, c)

end RoutePlan.Yaml
