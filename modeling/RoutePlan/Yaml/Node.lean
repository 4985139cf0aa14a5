import RoutePlan.Yaml.Token

/-! # YAML nodes

The tree that the tokens of a document spell out. Anchors are numbered as they are met, and
an alias is kept as the number of its anchor: the number of names known before it. An anchor
of a name that is known already takes a number that a later one may take again, and then all
aliases with the number stand for the node met last.
-/

namespace RoutePlan.Yaml

inductive Node where
  /-- A tag that says nothing is left out. -/
  | scalar (tag : Option String) (plain : Bool) (text : String)
  | alias (number : Nat)
  | list (tag : Option String) (items : List Node)
  | mapping (tag : Option String) (entries : List (Node × Node))
deriving Repr

/-- An anchored node with its number. -/
structure Target where
  number : Nat
  /-- How many anchors were met before it. -/
  order : Nat
  node : Node

structure Document where
  root : Node
  targets : List Target

/-- What is known while the tokens of a document are read. -/
structure Composer where
  tokens : List Token
  /-- The handles of tags with their meanings. -/
  handles : List (String × String) := []
  numbers : List (String × Nat) := []
  met : Nat := 0
  targets : List Target := []

abbrev Compose := StateT Composer Option

namespace Compose

def peek : Compose (Option Token) := return (← get).tokens.head?

def drop : Compose Unit := modify fun s => { s with tokens := s.tokens.drop 1 }

def refuse {α : Type} : Compose α := fun _ => none

/-- Pass the token if it stands next. -/
def accept (t : Token) : Compose Bool := do
  if (← peek) == some t then
    drop
    return true
  else return false

def expect (t : Token) : Compose Unit := do
  if !(← accept t) then refuse

def resolveTag (t : Tag) : Compose String := do
  if t.handle.isEmpty then return t.suffix
  match (← get).handles.lookup t.handle with
  | some meaning => return meaning ++ t.suffix
  | none => refuse

/-- Number an anchor. -/
def meet (name : String) : Compose Target := do
  let s ← get
  let number := s.numbers.length
  let known := s.numbers.filter fun n => n.1 != name
  set { s with numbers := (name, number) :: known, met := s.met + 1 }
  return ⟨number, s.met, .scalar none true ""⟩

/-- The anchor and the tag before a node, in either order. -/
def properties : Compose (Option String × Option Tag) := do
  match ← peek with
  | some (.anchor name) =>
    drop
    match ← peek with
    | some (.tag tag) =>
      drop
      return (some name, some tag)
    | _ => return (some name, none)
  | some (.tag tag) =>
    drop
    match ← peek with
    | some (.anchor name) =>
      drop
      return (some name, some tag)
    | _ => return (none, some tag)
  | _ => return (none, none)

/-- The node that stands where none is written. -/
def blank : Node := .scalar none true ""

end Compose

open Compose

/-- Whether a token ends the place for a node in a block. -/
def endsBlockNode (t : Option Token) : Bool :=
  t == some .key || t == some .value || t == some .blockEnd

mutual

/-- A node. Blocks may open where `block` says so, and a list without indentation of its own
may stand as the value of a key. -/
def composeNode : Nat → Bool → Bool → Compose Node
  | 0, _, _ => refuse
  | fuel + 1, block, loose => do
    if let some (.alias name) := ← peek then
      drop
      match (← get).numbers.lookup name with
      | some number => return .alias number
      | none => refuse
    else
      let (anchor, written) ← properties
      let tag ← written.mapM resolveTag
      let target ← anchor.mapM meet
      let node ← composeContent fuel block loose (anchor.isSome || tag.isSome) tag
      if let some t := target then
        modify fun s => { s with targets := { t with node } :: s.targets }
      return node

def composeContent : Nat → Bool → Bool → Bool → Option String → Compose Node
  | 0, _, _, _, _ => refuse
  | fuel + 1, block, loose, marked, tag => do
    match ← peek with
    | some .item =>
      if loose then return .list tag (← composeLoose fuel)
      else if marked then return .scalar tag true ""
      else refuse
    | some (.scalar plain text) =>
      drop
      return .scalar (tag.filter (· != "!")) plain text
    | some .listStart =>
      drop
      return .list tag (← composeItems fuel true)
    | some .mappingStart =>
      drop
      return .mapping tag (← composeMembers fuel true)
    | t =>
      if block && t == some .blockListStart then
        drop
        return .list tag (← composeBlockList fuel)
      else if block && t == some .blockMappingStart then
        drop
        return .mapping tag (← composeBlockMapping fuel)
      else if marked then return .scalar tag true ""
      else refuse

def composeBlockList : Nat → Compose (List Node)
  | 0 => refuse
  | fuel + 1 => do
    if ← accept .blockEnd then return []
    expect .item
    let t ← peek
    let item ← if t == some .item || t == some .blockEnd then pure blank
      else composeNode fuel true false
    return item :: (← composeBlockList fuel)

/-- The items of a list that is closed by the block around it. -/
def composeLoose : Nat → Compose (List Node)
  | 0 => refuse
  | fuel + 1 => do
    if ← accept .item then
      let t ← peek
      let item ← if t == some .item || endsBlockNode t then pure blank
        else composeNode fuel true false
      return item :: (← composeLoose fuel)
    else return []

def composeBlockMapping : Nat → Compose (List (Node × Node))
  | 0 => refuse
  | fuel + 1 => do
    if ← accept .blockEnd then return []
    expect .key
    let key ← if endsBlockNode (← peek) then pure blank else composeNode fuel true true
    let value ← if ← accept .value then
        if endsBlockNode (← peek) then pure blank else composeNode fuel true true
      else pure blank
    return (key, value) :: (← composeBlockMapping fuel)

/-- The items between brackets. An item with a colon is a mapping of one entry. -/
def composeItems : Nat → Bool → Compose (List Node)
  | 0, _ => refuse
  | fuel + 1, first => do
    if ← accept .listEnd then return []
    if !first then expect .comma
    if ← accept .listEnd then return []
    let item ← if ← accept .key then composePair fuel else composeNode fuel false false
    return item :: (← composeItems fuel false)

/-- One entry inside a list, after the mark of its key. A missing key takes the token after
it along. -/
def composePair : Nat → Compose Node
  | 0 => refuse
  | fuel + 1 => do
    let t ← peek
    let key ← if t == some .value || t == some .comma || t == some .listEnd then
        drop
        pure blank
      else composeNode fuel false false
    let value ← if ← accept .value then
        let t ← peek
        if t == some .comma || t == some .listEnd then pure blank
        else composeNode fuel false false
      else pure blank
    return .mapping none [(key, value)]

/-- The entries between braces. -/
def composeMembers : Nat → Bool → Compose (List (Node × Node))
  | 0, _ => refuse
  | fuel + 1, first => do
    if ← accept .mappingEnd then return []
    if !first then expect .comma
    if ← accept .mappingEnd then return []
    if ← accept .key then
      let t ← peek
      let key ← if t == some .value || t == some .comma || t == some .mappingEnd then pure blank
        else composeNode fuel false false
      let value ← if ← accept .value then
          let t ← peek
          if t == some .comma || t == some .mappingEnd then pure blank
          else composeNode fuel false false
        else pure blank
      return (key, value) :: (← composeMembers fuel false)
    else
      let key ← composeNode fuel false false
      return (key, blank) :: (← composeMembers fuel false)

end

/-- The meanings of handles that no directive gives. -/
def defaultHandles : List (String × String) :=
  [("!", "!"), ("!!", "tag:yaml.org,2002:")]

/-- The directives before a document: one version at most, and each handle once. -/
def readDirectives (versioned : Bool) (handles : List (String × String)) :
    List Token → Option (Bool × List (String × String) × List Token)
  | .version major minor :: rest =>
    if versioned ∨ major ≠ 1 ∨ (minor ≠ 1 ∧ minor ≠ 2) then none
    else readDirectives true handles rest
  | .tagHandle handle meaning :: rest =>
    if (handles.lookup handle).isSome then none
    else readDirectives versioned (handles ++ [(handle, meaning)]) rest
  | rest => some (versioned, handles, rest)

/-- The only document of a text. An empty text holds none. -/
def Document.ofTokens (tokens : List Token) : Option (Option Document) := do
  if tokens.isEmpty then return none
  let (versioned, handles, body) ← readDirectives false [] tokens
  let directed := versioned || !handles.isEmpty
  let (explicit, body) := match body with
    | .documentStart :: rest => (true, rest)
    | rest => (false, rest)
  if directed && !explicit then none
  let vacant := match body.head? with
    | none => true
    | some (.version ..) | some (.tagHandle ..) | some .documentStart => true
    | some .documentEnd => explicit
    | _ => false
  let start : Composer := { tokens := body, handles := handles ++ defaultHandles }
  let (root, done) ←
    if vacant then some (blank, start)
    else (composeNode (4 * tokens.length + 4) true false).run start
  if (done.tokens.dropWhile (· == .documentEnd)).isEmpty then return some ⟨root, done.targets⟩
  else none

end RoutePlan.Yaml
