import RoutePlan.Path
import RoutePlan.Regex

/-! # Patterns

A path is handed over to a matching router in two forms: with parameters in braces, and as
an anchored regular expression. Both read the path segment by segment. A segment that begins
with a colon and an identifier, and goes on with nothing or with a constraint in parentheses,
is a parameter; every other segment stands for itself.
-/

namespace RoutePlan.Pattern

inductive Segment where
  | fixed (text : List Char)
  | param (name : List Char) (constraint : Option (List Char))
deriving DecidableEq, Repr

def isIdentStart (c : Char) : Bool := c.isAlpha || c == '_'

def isIdentPart (c : Char) : Bool := c.isAlphanum || c == '_'

/-- The text between an opening parenthesis and a closing one at the very end; it holds at
least one character and no line feed. -/
def constraint? : List Char → Option (List Char)
  | '(' :: rest =>
    let inside := rest.dropLast
    if rest.getLast? = some ')' ∧ inside ≠ [] ∧ '\n' ∉ inside then some inside else none
  | _ => none

def Segment.read (text : List Char) : Segment :=
  match text with
  | ':' :: c :: rest =>
    if isIdentStart c then
      let name := c :: rest.takeWhile isIdentPart
      match rest.dropWhile isIdentPart with
      | [] => .param name none
      | after =>
        match constraint? after with
        | some inside => .param name (some inside)
        | none => .fixed text
    else .fixed text
  | _ => .fixed text

/-- The pieces between slashes; there is one more piece than there are slashes. -/
def pieces : List Char → List (List Char)
  | [] => [[]]
  | c :: rest =>
    if c = '/' then [] :: pieces rest
    else match pieces rest with
      | [] => [[c]]
      | p :: more => (c :: p) :: more

def segments (pattern : String) : List Segment := (pieces pattern.toList).map Segment.read

/-- The characters of the text with a backslash before each that has a meaning in patterns. -/
def quote (text : List Char) : List Char :=
  text.flatMap fun c => if Regex.isMeta c then ['\\', c] else [c]

/-- What a segment adds to the expression. An empty piece adds nothing, not even a slash. -/
def Segment.source : Segment → List Char
  | .fixed [] => []
  | .fixed text => '/' :: quote text
  | .param _ constraint => "/(".toList ++ constraint.getD "[^/]+".toList ++ [')']

def Segment.name? : Segment → Option (List Char)
  | .fixed _ => none
  | .param name _ => some name

def Segment.openapi : Segment → List Char
  | .fixed text => text
  | .param name _ => '\x7b' :: name ++ ['\x7d']

/-- The anchored expression. The root path alone keeps its slash. -/
def source (pattern : String) : String :=
  if pattern = "/" then "^/$"
  else String.ofList ('^' :: (segments pattern).flatMap Segment.source ++ ['$'])

def params (pattern : String) : List String :=
  (segments pattern).filterMap fun s => s.name?.map String.ofList

def regex? (pattern : String) : Option Regex := Regex.compile? (source pattern)

def openapi (pattern : String) : String :=
  String.ofList (List.intercalate ['/'] ((segments pattern).map Segment.openapi))

end RoutePlan.Pattern
