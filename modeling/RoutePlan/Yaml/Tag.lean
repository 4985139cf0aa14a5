import RoutePlan.Yaml.Scalar
import RoutePlan.Yaml.Token

/-! # YAML anchors, tags and directives -/

namespace RoutePlan.Yaml

def isWordChar (c : Char) : Bool := c.isAlphanum || c == '_' || c == '-'

/-- The name of an anchor or an alias, after its mark. -/
def readAnchor (c : Cursor) : Option (String × Cursor) :=
  let (name, c) := c.pass isWordChar
  if name.isEmpty || !(endsWord c.rest || c.rest.head?.any "?:,]\x7d%@`".toList.contains) then none
  else some (String.ofList name, c)

def isTagChar (verbatim : Bool) (c : Char) : Bool :=
  isWordChar c || ";/?:@&=+$.!~*'()".toList.contains c ||
    verbatim && ",[]".toList.contains c

/-- An escaped octet. -/
def readOctet : List Char → Option (Nat × List Char)
  | '%' :: rest => readHex 2 0 rest
  | _ => none

/-- The octets that go on a character, six bits each. -/
def readTrailing : Nat → Nat → List Char → Option (Nat × List Char)
  | 0, n, rest => some (n, rest)
  | more + 1, n, rest => do
    let (octet, rest) ← readOctet rest
    if octet / 64 = 2 then readTrailing more (n * 64 + octet % 64) rest else none

/-- A character of a tag that is written as escaped octets. -/
def readOctets (rest : List Char) : Option (Char × List Char) := do
  let (first, rest) ← readOctet rest
  let (n, rest) ←
    if first < 0x80 then some (first, rest)
    else if first / 32 = 6 then readTrailing 1 (first % 32) rest
    else if first / 16 = 14 then readTrailing 2 (first % 16) rest
    else if first / 8 = 30 then readTrailing 3 (first % 8) rest
    else none
  return (Char.ofNat n, rest)

/-- The characters of a tag. -/
def readTagChars (verbatim : Bool) : Nat → List Char → Option (List Char × List Char)
  | 0, _ => none
  | _ + 1, [] => some ([], [])
  | fuel + 1, c :: rest =>
    if c = '%' then do
      let (d, rest) ← readOctets (c :: rest)
      let (cs, rest) ← readTagChars verbatim fuel rest
      return (d :: cs, rest)
    else if isTagChar verbatim c then do
      let (cs, rest) ← readTagChars verbatim fuel rest
      return (c :: cs, rest)
    else some ([], c :: rest)

/-- A handle: an exclamation mark, with a word and a second mark after it or without. -/
def readHandle (c : Cursor) : Option (List Char × Cursor) :=
  if !c.stands '!' then none
  else
    let (word, c) := (c.skip 1).pass isWordChar
    if c.stands '!' then some ('!' :: word ++ ['!'], c.skip 1) else some ('!' :: word, c)

/-- A tag from its exclamation mark on. Where the handle is not closed by a mark of its own,
it was the beginning of a local name. -/
def readTag (flow : Bool) (c : Cursor) : Option (Tag × Cursor) := do
  let (tag, c) ←
    if c.rest.take 2 = ['!', '<'] then do
      let c := c.skip 2
      let (name, rest) ← readTagChars true (c.rest.length + 1) c.rest
      let c := c.seek rest
      if name.isEmpty || !c.stands '>' then none
      pure (Tag.mk "" (String.ofList name), c.skip 1)
    else do
      let (handle, c) ← readHandle c
      let (name, rest) ← readTagChars false (c.rest.length + 1) c.rest
      let c := c.seek rest
      if handle.length > 1 ∧ handle.getLast? = some '!' then
        if name.isEmpty then none
        pure (⟨String.ofList handle, String.ofList name⟩, c)
      else
        let name := handle.drop 1 ++ name
        pure (if name.isEmpty then ⟨"", "!"⟩ else ⟨"!", String.ofList name⟩, c)
  if endsWord c.rest || flow && c.stands ',' then return (tag, c) else none

/-- A number of a version, of at most nine digits. -/
def readVersionNumber (c : Cursor) : Option (Nat × Cursor) :=
  let (digits, c) := c.pass Char.isDigit
  if digits.isEmpty || digits.length > 9 then none
  else some (digits.foldl (fun n d => n * 10 + (d.toNat - 48)) 0, c)

/-- A directive, after its mark, to the end of its line. -/
def readDirective (c : Cursor) : Option (Token × Cursor) := do
  let (name, c) := c.pass isWordChar
  if name.isEmpty || !endsWord c.rest then none
  let (_, c) := c.pass isBlank
  let (token, c) ←
    if name = "YAML".toList then do
      let (major, c) ← readVersionNumber c
      if !c.stands '.' then none
      let (minor, c) ← readVersionNumber (c.skip 1)
      pure (Token.version major minor, c)
    else if name = "TAG".toList then do
      let (handle, c) ← readHandle c
      if handle.length > 1 ∧ handle.getLast? ≠ some '!' then none
      if !c.rest.head?.any isBlank then none
      let (_, c) := c.pass isBlank
      let (meaning, rest) ← readTagChars true (c.rest.length + 1) c.rest
      if meaning.isEmpty || !endsWord rest then none
      pure (Token.tagHandle (String.ofList handle) (String.ofList meaning), c.seek rest)
    else none
  let (_, c) := c.pass isBlank
  let c := if c.stands '#' then (c.pass fun x => !isBreak x).2 else c
  match c.passBreak? with
  | some (_, c) => return (token, c)
  | none => if c.rest.isEmpty then return (token, c) else none

end RoutePlan.Yaml
