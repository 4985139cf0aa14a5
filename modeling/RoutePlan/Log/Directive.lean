import RoutePlan.Event
import RoutePlan.Regex
import RoutePlan.Text.Blank
import RoutePlan.Text.Word

/-! # Log directives

A directive lets events pass up to a level. It may ask for a source, for a span and for
fields: `source[span\x7bfield=value\x7d]=level`, where every part may be missing.
-/

namespace RoutePlan.Log

/-- The least severe level that passes, or nothing if no level does. -/
abbrev Threshold := Option Level

def Threshold.passes (t : Threshold) (level : Level) : Bool :=
  t.any fun most => level.rank ≤ most.rank

structure Directive where
  source : Option String := none
  span : Option String := none
  /-- The fields asked for, each with whether a value is asked for too. -/
  fields : List (String × Bool) := []
  threshold : Threshold := some .trace
deriving DecidableEq, Repr

/-- Levels are written by name, in any mixture of cases, or by number. -/
def threshold? (s : List Char) : Option Threshold :=
  let digits := match s with
    | '+' :: rest => rest
    | s => s
  if !digits.isEmpty && digits.all Char.isDigit then
    ([(0, none), (1, some .error), (2, some .warn), (3, some .info), (4, some .debug),
      (5, some .trace)] : List (Nat × Threshold)).lookup
        (digits.foldl (fun n d => n * 10 + (d.toNat - 48)) 0)
  else
    ([("off", none), ("error", some .error), ("warn", some .warn), ("info", some .info),
      ("debug", some .debug), ("trace", some .trace)] : List (String × Threshold)).lookup
        (String.ofList (s.map Char.toLower))

/-- A missing level lets everything pass. -/
def level? (s : List Char) : Option Threshold :=
  if s.isEmpty then some (some .trace) else threshold? s

/-- The characters a directive may begin with, besides the bracket of a span. -/
def startsDirective (c : Char) : Bool :=
  c == '-' || c == ':' || c == '_' || Text.isLetterLike c || (Text.Category.of c).isNumber

/-- A field and the pattern its value has to match. -/
def field? (s : List Char) : Option (String × Bool) :=
  let name := String.ofList (s.takeWhile (· != '='))
  if s.isEmpty then none
  else
    match s.dropWhile (· != '=') with
    | [] => some (name, false)
    | _ :: value =>
      let pattern := String.ofList (value.takeWhile (· != '='))
      if (Regex.compile? pattern).isSome then some (name, true) else none

namespace Directive

/-- What stands behind the brackets. -/
def finish? (d : Directive) : List Char → Option Directive
  | [] => some d
  | '=' :: level => do return { d with threshold := ← level? level }
  | _ => none

/-- The inside of the brackets. -/
def readSpan? (d : Directive) (s : List Char) : Option Directive :=
  let ends (c : Char) : Bool := c == ']' || c == '\x7b'
  let name := String.ofList (s.takeWhile (!ends ·))
  match s.dropWhile (!ends ·) with
  | ']' :: rest => { d with span := some name }.finish? rest
  | _ :: rest => do
    let field ← field? (rest.takeWhile (· != '\x7d'))
    let d := { d with span := if name.isEmpty then none else some name, fields := [field] }
    match rest.dropWhile (· != '\x7d') with
    | _ :: ']' :: rest => d.finish? rest
    | _ => none
  | [] => none

/-- A text without brackets and equals sign is a level if it can be, else a source. -/
def parse (s : List Char) : Option Directive :=
  match s with
  | [] => none
  | '[' :: rest => ({} : Directive).readSpan? rest
  | first :: _ =>
    if !startsDirective first then none
    else
      let ends (c : Char) : Bool := c == '=' || c == '['
      let head := s.takeWhile (!ends ·)
      match s.dropWhile (!ends ·) with
      | '=' :: level => do
        return { source := some (String.ofList head), threshold := ← level? level }
      | _ :: rest => { source := some (String.ofList head) : Directive }.readSpan? rest
      | [] =>
        match threshold? s with
        | some t => some { threshold := t }
        | none => some { source := some (String.ofList s) }

/-- A directive with blanks before it can only be a source, and the blanks are part of it. -/
def read (s : List Char) : Option Directive :=
  match s.dropWhile Text.isBlank with
  | [] => none
  | first :: rest =>
    if !s.head?.any Text.isBlank then parse s
    else if startsDirective first && rest.all fun c => c != '=' && c != '[' then
      some { source := some (String.ofList s) }
    else none

/-- Events stand in no span and their values are not looked at, so a directive that asks for
either lets no event pass. -/
def isStatic (d : Directive) : Bool := d.span.isNone && d.fields.all fun f => !f.2

def fieldNames (d : Directive) : List String := d.fields.map (·.1)

/-- Whether the directive is about an event. -/
def concerns (d : Directive) (e : Event) : Bool :=
  d.source.all (fun s => s.toList.isPrefixOf e.source.toList) &&
    d.fieldNames.all fun name => name == "message" || e.fields.any fun f => f.1 == name

/-- Longer sources are more specific, then more fields, then fields later in the alphabet. -/
def specificity (d : Directive) : Nat × Nat × List String :=
  (d.source.elim 0 (·.length + 1), d.fields.length, d.fieldNames)

def moreSpecific (d e : Directive) : Bool :=
  let (length, count, names) := d.specificity
  let (otherLength, otherCount, otherNames) := e.specificity
  if length != otherLength then otherLength < length
  else if count != otherCount then otherCount < count
  else otherNames < names

end Directive
end RoutePlan.Log
