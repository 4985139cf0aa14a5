import RoutePlan.Text.Word

/-! # Regular expressions

An expression is what is left of a pattern once it is read: sets of characters, assertions
about the place between two characters, and ways to combine them. Flags are already worked
into the sets and assertions.
-/

namespace RoutePlan.Regex

open Text

inductive Assertion where
  | textStart
  | textEnd
  | lineStart
  | lineEnd
  /-- Line ends are a line feed, a carriage return or both, and never lie within the pair. -/
  | crlfLineStart
  | crlfLineEnd
  | boundary (word : CharSet)
  | notBoundary (word : CharSet)
  | wordStart (word : CharSet)
  | wordEnd (word : CharSet)
  | halfWordStart (word : CharSet)
  | halfWordEnd (word : CharSet)

/-- Whether an assertion holds between the character before and the characters after. -/
def Assertion.holds (before : Option Char) (after : List Char) : Assertion → Bool
  | .textStart => before.isNone
  | .textEnd => after.isEmpty
  | .lineStart => before.isNone || before == some '\n'
  | .lineEnd => after.isEmpty || after.head? == some '\n'
  | .crlfLineStart =>
    before.isNone || before == some '\n' || (before == some '\r' && after.head? != some '\n')
  | .crlfLineEnd =>
    after.isEmpty || after.head? == some '\r' || (after.head? == some '\n' && before != some '\r')
  | .boundary word => before.any word != after.head?.any word
  | .notBoundary word => before.any word == after.head?.any word
  | .wordStart word => !before.any word && after.head?.any word
  | .wordEnd word => before.any word && !after.head?.any word
  | .halfWordStart word => !before.any word
  | .halfWordEnd word => !after.head?.any word

inductive Expr where
  | empty
  | chars (set : CharSet)
  | look (a : Assertion)
  | seq (a b : Expr)
  | alt (a b : Expr)
  | loop (body : Expr) (least : Nat) (most : Option Nat) (greedy : Bool)
  /-- A numbered group, whose text is reported. -/
  | group (index : Nat) (body : Expr)

namespace Expr

/-- A body repeated at most zero times is empty, groups and all; repeated exactly once it
is itself. -/
def repeated (body : Expr) (least : Nat) (most : Option Nat) (greedy : Bool) : Expr :=
  if least = 0 ∧ most = some 0 then .empty
  else if least = 1 ∧ most = some 1 then body
  else .loop body least most greedy

/-- One expression after another; the sequence leans to the left. -/
def seqAll : List Expr → Expr
  | [] => .empty
  | e :: rest => rest.foldl .seq e

def altAll : List Expr → Expr
  | [] => .empty
  | e :: rest => rest.foldl .alt e

/-- The highest number of a group. -/
def groups : Expr → Nat
  | .empty | .chars _ | .look _ => 0
  | .seq a b | .alt a b => max a.groups b.groups
  | .loop body _ _ _ => body.groups
  | .group index body => max index body.groups

end Expr
end RoutePlan.Regex
