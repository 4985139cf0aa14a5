import RoutePlan.Regex.Expr

/-! # Matching

Matching an expression from a cursor gives the cursors at which it may end, the preferred
one first and at most one for each place in the text. Preference is the order in which the
alternatives are written and the greed of the loops. A match of a text is the first cursor
from the leftmost place that has one.
-/

namespace RoutePlan.Regex

/-- A place in a text, with the text of each group that has closed so far. -/
structure Cursor where
  before : Option Char
  rest : List Char
  groups : List (Nat × List Char)

namespace Cursor

/-- The number of characters still ahead, which names the place. -/
def ahead (c : Cursor) : Nat := c.rest.length

def close (start : Cursor) (index : Nat) (stop : Cursor) : Cursor :=
  { stop with groups := (index, start.rest.take (start.ahead - stop.ahead)) :: stop.groups }

/-- The first cursor of every place that is not among those passed already. -/
def firsts (passed : List Nat) : List Cursor → List Cursor
  | [] => []
  | c :: rest =>
    if passed.contains c.ahead then firsts passed rest
    else c :: firsts (c.ahead :: passed) rest

end Cursor

/-- One pass through the body of a loop. -/
abbrev Pass := Cursor → List Cursor

/-- Apply a walk to cursors in turn. A walk takes the places it must not enter again, and
gives its cursors with the places it has entered. -/
def inTurn {κ : Type} (walk : List κ → Cursor → List Cursor × List κ) (passed : List κ) :
    List Cursor → List Cursor × List κ
  | [] => ([], passed)
  | c :: rest =>
    let (here, passed) := walk passed c
    let (later, passed) := inTurn walk passed rest
    (here ++ later, passed)

/-- The cursors after a pass and any number of further passes that advance, walked depth
first. The fuel bounds the number of characters ahead. -/
def roam (pass : Pass) (greedy : Bool) : Nat → List Nat → Cursor → List Cursor × List Nat
  | 0, passed, c => ([c], passed)
  | fuel + 1, passed, c =>
    if passed.contains c.ahead then ([], passed)
    else
      let next := (pass c).filter fun d => d.ahead < c.ahead
      let (further, passed) := inTurn (roam pass greedy fuel) (c.ahead :: passed) next
      (if greedy then further ++ [c] else c :: further, passed)

/-- One pass or more. Only the first pass may stay in place. -/
def atLeastOnce (pass : Pass) (greedy : Bool) (c : Cursor) : List Cursor :=
  (inTurn (roam pass greedy (c.ahead + 1)) [] (pass c)).1

/-- Any number of passes, none included. -/
def anyTimes (pass : Pass) (greedy : Bool) (c : Cursor) : List Cursor :=
  if greedy then atLeastOnce pass greedy c ++ [c]
  else c :: (inTurn (roam pass greedy (c.ahead + 1)) [c.ahead] (pass c)).1

/-- Exactly so many passes. -/
def exactly (pass : Pass) : Nat → List Cursor → List Cursor
  | 0, cs => cs
  | n + 1, cs =>
    match cs with
    | [] => []
    | _ => exactly pass n (Cursor.firsts [] (cs.flatMap pass))

/-- At most so many passes; a place may be entered once for each number of passes left. -/
def atMost (pass : Pass) (greedy : Bool) :
    Nat → List (Nat × Nat) → Cursor → List Cursor × List (Nat × Nat)
  | 0, passed, c => ([c], passed)
  | n + 1, passed, c =>
    if passed.contains (n, c.ahead) then ([], passed)
    else
      let (further, passed) := inTurn (atMost pass greedy n) ((n, c.ahead) :: passed) (pass c)
      (if greedy then further ++ [c] else c :: further, passed)

def looped (pass : Pass) (least : Nat) (most : Option Nat) (greedy : Bool) (c : Cursor) :
    List Cursor :=
  Cursor.firsts [] <| match most with
    | some n =>
      (exactly pass least [c]).flatMap fun d => (atMost pass greedy (n - least) [] d).1
    | none =>
      if least = 0 then anyTimes pass greedy c
      else (exactly pass (least - 1) [c]).flatMap (atLeastOnce pass greedy)

def ends : Expr → Cursor → List Cursor
  | .empty, c => [c]
  | .chars set, c =>
    match c.rest with
    | [] => []
    | d :: rest => if set d then [{ c with before := some d, rest }] else []
  | .look a, c => if a.holds c.before c.rest then [c] else []
  | .seq a b, c => Cursor.firsts [] ((ends a c).flatMap fun d => ends b d)
  | .alt a b, c => Cursor.firsts [] (ends a c ++ ends b c)
  | .loop body least most greedy, c => looped (fun d => ends body d) least most greedy c
  | .group index body, c => (ends body c).map fun d => c.close index d

/-- The preferred end of a match from the leftmost place that has one. -/
def leftmost (e : Expr) (before : Option Char) : List Char → Option Cursor
  | [] => (ends e ⟨before, [], []⟩).head?
  | d :: rest =>
    match (ends e ⟨before, d :: rest, []⟩).head? with
    | some c => some c
    | none => leftmost e (some d) rest

end RoutePlan.Regex
