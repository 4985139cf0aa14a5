import RoutePlan.Json.Tree

/-! # Schemas

A schema describes what a document holds at one place and can read it in two ways: from a
tree, or from text while the text is read. The first way sees a faulty tree in its order; the
second stops at the first character where text or content goes wrong, so a mismatch may be
reported although the text behind it is broken.

Records are written as objects, whose unknown members are passed over, or as lists of their
fields in order, of which the last may be left out where they have a fallback.
-/

namespace RoutePlan.Json

structure Schema (α : Type) where
  ofValue : Value → Except Mismatch α
  /-- Reads from the first characters, with the depth that is left. -/
  read : Nat → List Char → Except ReadFault (α × List Char)

/-- The fields of a record in order, each with the value it has where it is left out. -/
inductive Fields : Type → Type 1 where
  | done : Fields Unit
  | field {α β : Type} (name : String) (schema : Schema α) (fallback : Option α)
      (rest : Fields β) : Fields (α × β)

/-- What stands at the place of a value, told from its first characters. Leaves are read to
their end, so that a broken leaf is reported as such. -/
def readFound (s : List Char) : Except ReadFault Found :=
  match s with
  | 'n' :: rest => do
    let _ ← readWord "ull".toList rest
    return .null
  | 't' :: rest => do
    let _ ← readWord "rue".toList rest
    return .bool true
  | 'f' :: rest => do
    let _ ← readWord "alse".toList rest
    return .bool false
  | '"' :: rest => do
    let (text, _) ← readText rest
    return .text text
  | '[' :: _ => .ok .list
  | '\x7b' :: _ => .ok .object
  | c :: rest =>
    if startsNumber c then do
      let (n, _) ← readNumber (c :: rest)
      return .number n
    else .error .malformed
  | [] => .error .ended

/-- The fault of text that is not what was expected. -/
def readUnexpected (expected : String) (s : List Char) : ReadFault :=
  match readFound s with
  | .ok found => .mismatch (.unexpected found expected)
  | .error e => e

def liftMismatch {α : Type} : Except Mismatch α → Except ReadFault α
  | .ok a => .ok a
  | .error m => .error (.mismatch m)

namespace Fields

def count {α : Type} : Fields α → Nat
  | .done => 0
  | .field _ _ _ rest => rest.count + 1

/-- A place for the value of each field. -/
def Slots {α : Type} : Fields α → Type
  | .done => Unit
  | @field β _ _ _ _ rest => Option β × rest.Slots

def vacant {α : Type} : (fs : Fields α) → fs.Slots
  | .done => ()
  | .field _ _ _ rest => (none, rest.vacant)

/-- Fill the slot of the field with this key, if there is one, with what `get` gives for the
field's schema. A filled slot is not filled again. -/
def put {α ε σ : Type} (get : {β : Type} → Schema β → Except ε (β × σ)) (taken : String → ε)
    (key : String) : (fs : Fields α) → fs.Slots → Option (Except ε (fs.Slots × σ))
  | .done, _ => none
  | @field β _ name schema _ rest, slots =>
    let places : Option β × rest.Slots := slots
    if key = name then
      some (match places.1 with
        | some _ => .error (taken name)
        | none => do
          let (value, s) ← get schema
          return ((some value, places.2), s))
    else
      (rest.put get taken key places.2).map fun filled => do
        let (others, s) ← filled
        return ((places.1, others), s)

/-- The record, once all members are seen. Of several fields left out without a fallback the
first is reported. -/
def finish {α : Type} : (fs : Fields α) → fs.Slots → Except Mismatch α
  | .done, _ => .ok ()
  | @field β _ name _ fallback rest, slots =>
    let places : Option β × rest.Slots := slots
    match places.1 <|> fallback with
    | none => .error (.missing name)
    | some value => do
      let values ← rest.finish places.2
      return (value, values)

def ofMembers {α : Type} (fs : Fields α) :
    List (String × Value) → fs.Slots → Except Mismatch fs.Slots
  | [], slots => .ok slots
  | (key, value) :: members, slots =>
    match fs.put (fun schema => do return (← schema.ofValue value, ())) .duplicate key slots with
    | none => fs.ofMembers members slots
    | some filled => do
      let (slots, ()) ← filled
      fs.ofMembers members slots

def ofItems {α : Type} (record : String) (total : Nat) :
    Fields α → Nat → List Value → Except Mismatch (α × List Value)
  | .done, _, items => .ok ((), items)
  | .field _ schema _ rest, index, item :: items => do
    let value ← schema.ofValue item
    let (values, items) ← rest.ofItems record total (index + 1) items
    return ((value, values), items)
  | .field _ _ fallback rest, index, [] =>
    match fallback with
    | none => .error (.shortList index record total)
    | some value => do
      let (values, items) ← rest.ofItems record total (index + 1) []
      return ((value, values), items)

/-- Members up to the closing brace. A repeated key is reported before its value is read. -/
def readMembers {α : Type} (fs : Fields α) (depth : Nat) :
    Nat → Bool → fs.Slots → List Char → Except ReadFault (fs.Slots × List Char)
  | 0, _, _, _ => .error .malformed
  | fuel + 1, first, slots, s => do
    let (more, s) ← atMember first s
    if more then
      let (key, s) ← readText s
      let value {β : Type} (schema : Schema β) : Except ReadFault (β × List Char) := do
        let ((), s) ← readColon s
        schema.read depth s
      match fs.put value (fun name => .mismatch (.duplicate name)) key slots with
      | none =>
        let ((), s) ← readColon s
        let ((), s) ← skipValue s
        fs.readMembers depth fuel false slots s
      | some filled =>
        let (slots, s) ← filled
        fs.readMembers depth fuel false slots s
    else return (slots, s)

def readItems {α : Type} (record : String) (total depth : Nat) :
    Fields α → Nat → List Char → Except ReadFault (α × List Char)
  | .done, _, s => .ok ((), s)
  | .field _ schema fallback rest, index, s => do
    let (more, s) ← atItem (index == 0) s
    if more then
      let (value, s) ← schema.read depth s
      let (values, s) ← rest.readItems record total depth (index + 1) s
      return ((value, values), s)
    else
      match fallback with
      | none => .error (.mismatch (.shortList index record total))
      | some value => do
        let (values, s) ← rest.readItems record total depth (index + 1) s
        return ((value, values), s)

end Fields

namespace Schema

variable {α β : Type}

/-- Nothing fits. -/
def never : Schema α where
  ofValue _ := .error (.rejected "recursion limit exceeded")
  read _ _ := .error .malformed

def text : Schema String where
  ofValue
    | .text s => .ok s
    | v => .error (.unexpected v.found "a string")
  read _ s :=
    match skipBlanks s with
    | [] => .error .ended
    | '"' :: rest => readText rest
    | s => .error (readUnexpected "a string" s)

/-- What is read may turn out not to do. -/
def refine (a : Schema α) (f : α → Except String β) : Schema β where
  ofValue v := do
    let x ← a.ofValue v
    (f x).mapError .rejected
  read depth s := do
    let (x, s) ← a.read depth s
    let y ← (f x).mapError fun reason => .mismatch (.rejected reason)
    return (y, s)

def map (f : α → β) (a : Schema α) : Schema β where
  ofValue v := do return f (← a.ofValue v)
  read depth s := do
    let (x, s) ← a.read depth s
    return (f x, s)

/-- Null stands for nothing. -/
def optional (a : Schema α) : Schema (Option α) where
  ofValue
    | .null => .ok none
    | v => do return some (← a.ofValue v)
  read depth s :=
    match skipBlanks s with
    | 'n' :: rest => do
      let ((), rest) ← readWord "ull".toList rest
      return (none, rest)
    | s => do
      let (x, s) ← a.read depth s
      return (some x, s)

def ofItems (a : Schema α) : List Value → Except Mismatch (List α)
  | [] => .ok []
  | v :: rest => do
    let x ← a.ofValue v
    let xs ← a.ofItems rest
    return x :: xs

def readItems (a : Schema α) (depth : Nat) :
    Nat → Bool → List Char → Except ReadFault (List α × List Char)
  | 0, _, _ => .error .malformed
  | fuel + 1, first, s => do
    let (more, s) ← atItem first s
    if more then
      let (x, s) ← a.read depth s
      let (xs, s) ← a.readItems depth fuel false s
      return (x :: xs, s)
    else
      let ((), s) ← closeList s
      return ([], s)

def list (a : Schema α) : Schema (List α) where
  ofValue
    | .list items => a.ofItems items
    | v => .error (.unexpected v.found "a sequence")
  read depth s :=
    match skipBlanks s with
    | [] => .error .ended
    | '[' :: rest => do a.readItems (← enter depth) (rest.length + 1) true rest
    | s => .error (readUnexpected "a sequence" s)

def record (name : String) (fields : Fields α) : Schema α where
  ofValue
    | .list items => do
      let (x, rest) ← fields.ofItems name fields.count 0 items
      if rest.isEmpty then return x else throw (.longList items.length)
    | .object members => do fields.finish (← fields.ofMembers members fields.vacant)
    | v => .error (.unexpected v.found ("struct " ++ name))
  read depth s :=
    match skipBlanks s with
    | [] => .error .ended
    | '[' :: rest => do
      let (x, rest) ← fields.readItems name fields.count (← enter depth) 0 rest
      let ((), rest) ← closeList rest
      return (x, rest)
    | '\x7b' :: rest => do
      let (slots, rest) ←
        fields.readMembers (← enter depth) (rest.length + 1) true fields.vacant rest
      let x ← liftMismatch (fields.finish slots)
      return (x, rest)
    | s => .error (readUnexpected ("struct " ++ name) s)

/-- The schema of a variant's content. -/
def variant (variants : List (String × Schema α)) (name : String) :
    Except Mismatch (Schema α) :=
  match variants.lookup name with
  | some schema => .ok schema
  | none => .error (.unknownVariant name (variants.map (·.1)))

/-- One of several variants, written as an object with the variant's name for its only key. -/
def choice (variants : List (String × Schema α)) : Schema α where
  ofValue
    | .object [(name, v)] => do (← variant variants name).ofValue v
    | .object _ => .error .notSingle
    | .text name => do
      let _ ← variant variants name
      throw (.unexpected .bareVariant "newtype variant")
    | v => .error (.unexpected v.found "string or map")
  read depth s :=
    match skipBlanks s with
    | [] => .error .ended
    | '\x7b' :: rest => do
      let depth ← enter depth
      let (name, rest) ← match skipBlanks rest with
        | [] => .error .ended
        | '"' :: rest => readText rest
        | s => .error (readUnexpected "variant identifier" s)
      let schema ← liftMismatch (variant variants name)
      let ((), rest) ← readColon rest
      let (x, rest) ← schema.read depth rest
      match skipBlanks rest with
      | [] => .error .ended
      | '\x7d' :: rest => return (x, rest)
      | _ => .error .malformed
    | '"' :: rest => do
      let (name, _) ← readText rest
      let _ ← liftMismatch (variant variants name)
      throw (.mismatch (.unexpected .bareVariant "newtype variant"))
    | _ => .error .malformed

/-- Two ways to write the same. The value is read to its end before either is tried. -/
def either (name : String) (a b : Schema α) : Schema α :=
  let ofValue (v : Value) : Except Mismatch α :=
    match a.ofValue v with
    | .ok x => .ok x
    | .error _ =>
      match b.ofValue v with
      | .ok x => .ok x
      | .error _ => .error (.noAlternative name)
  { ofValue
    read := fun depth s => do
      let (v, rest) ← Json.readValue depth s
      let x ← liftMismatch (ofValue v)
      return (x, rest) }

/-- A text that holds one value of the schema. What follows the value is looked at last. -/
def parse (a : Schema α) (text : String) : Except ReadFault α := do
  let (x, rest) ← a.read depthLimit text.toList
  closeText rest
  return x

end Schema
end RoutePlan.Json
