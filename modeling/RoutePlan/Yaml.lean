import RoutePlan.Yaml.Layout
import RoutePlan.Yaml.Node
import RoutePlan.Yaml.Plain

/-! # YAML documents as JSON values

The value of a document: aliases are replaced by what they stand for, plain texts by what
they mean, and the keys of mappings by their text. Containers nest only so deep, and aliases
are followed only so often, so a document that contains itself has no value.
-/

namespace RoutePlan.Yaml

open Json (Value)

mutual

/-- The beginnings and ends of nodes in the text of a node. -/
def Node.size : Node → Nat
  | .scalar .. | .alias _ => 1
  | .list _ items => 2 + itemsSize items
  | .mapping _ entries => 2 + entriesSize entries

def itemsSize : List Node → Nat
  | [] => 0
  | item :: rest => item.size + itemsSize rest

def entriesSize : List (Node × Node) → Nat
  | [] => 0
  | entry :: rest => entrySize entry + entriesSize rest

def entrySize : Node × Node → Nat
  | (key, value) => key.size + value.size

end

/-- The node that the aliases with this number stand for: of those that had the number, the
one met last. -/
def Document.target? (d : Document) (number : Nat) : Option Node :=
  (d.targets.foldl (fun best t =>
    if t.number ≠ number then best
    else match best with
      | some b => if b.order < t.order then some t else best
      | none => some t) none).map (·.node)

/-- The containers that may be open at once. -/
def depthLimit : Nat := 128

/-- Aliases may be followed so often for each beginning and end in the document. -/
def jumpFactor : Nat := 100

/-- Following an alias counts. The state is how many may still be followed. -/
abbrev Expand := StateT Nat Option

def Document.follow (d : Document) (number : Nat) : Expand Node := fun left =>
  match left, d.target? number with
  | left + 1, some node => some (node, left)
  | _, _ => none

/-- Nodes other than aliases are found at most one step away. -/
def Document.settle (d : Document) : Node → Expand Node
  | .alias number => d.follow number
  | node => pure node

def isLocal (tag : Option String) : Bool := tag.any fun t => t.toList.head? == some '!'

def scalarValue (tag : Option String) (plain : Bool) (text : String) : Option Value :=
  match tag with
  | some tag => taggedValue tag text
  | none => if plain then plainValue text else some (.text text)

/-- The text of a key. Only a scalar has one, whatever its tag. -/
def Document.keyText (d : Document) (key : Node) : Expand String := do
  match ← d.settle key with
  | .scalar _ _ text => return text
  | _ => fun _ => none

def Document.value (d : Document) : Nat → Node → Expand Value
  | 0, node => do
    match ← d.settle node with
    | .scalar tag plain text => fun left => (scalarValue tag plain text).map (·, left)
    | _ => fun _ => none
  | depth + 1, node => do
    match ← d.settle node with
    | .scalar tag plain text => fun left => (scalarValue tag plain text).map (·, left)
    | .list tag items =>
      if isLocal tag then fun _ => none
      else return .list (← items.mapM (d.value depth))
    | .mapping tag entries =>
      if isLocal tag then fun _ => none
      else
        let members ← entries.mapM fun (key, value) => do
          return (← d.keyText key, ← d.value depth value)
        return .ofMembers members
    | .alias _ => fun _ => none

/-- The value of a text's only document. A text without one is null. -/
def parse (text : String) : Option Value := do
  match ← Document.ofTokens (← tokens text) with
  | none => return .null
  | some d =>
    let (value, _) ← (d.value depthLimit d.root).run (d.root.size * jumpFactor)
    return value

end RoutePlan.Yaml
