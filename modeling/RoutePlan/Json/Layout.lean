import RoutePlan.Json.Fault

/-! # Layout of JSON text

A reader takes the characters that are left and gives what it read with the characters left
after it. The readers here pass the blanks and the marks between values, and say whether one
more item or member follows.
-/

namespace RoutePlan.Json

def isBlank (c : Char) : Bool := c == ' ' || c == '\n' || c == '\t' || c == '\r'

def skipBlanks (s : List Char) : List Char := s.dropWhile isBlank

/-- The rest of a keyword. -/
def readWord : List Char → List Char → Except ReadFault (Unit × List Char)
  | [], rest => .ok ((), rest)
  | _ :: _, [] => .error .ended
  | w :: word, c :: rest => if c = w then readWord word rest else .error .malformed

/-- Whether one more item follows in a list: if so the rest begins with it, else with the
closing bracket. Before every item but the first stands a comma. -/
def atItem (first : Bool) (s : List Char) : Except ReadFault (Bool × List Char) :=
  match skipBlanks s with
  | [] => .error .ended
  | ']' :: rest => .ok (false, ']' :: rest)
  | c :: rest =>
    if first then .ok (true, c :: rest)
    else if c = ',' then
      match skipBlanks rest with
      | [] => .error .ended
      | ']' :: _ => .error .malformed
      | item => .ok (true, item)
    else .error .malformed

def closeList (s : List Char) : Except ReadFault (Unit × List Char) :=
  match skipBlanks s with
  | [] => .error .ended
  | ']' :: rest => .ok ((), rest)
  | _ => .error .malformed

/-- Whether one more member follows in an object: if so the rest begins after the quote that
opens its key, else after the closing brace. -/
def atMember (first : Bool) (s : List Char) : Except ReadFault (Bool × List Char) :=
  match skipBlanks s with
  | [] => .error .ended
  | '\x7d' :: rest => .ok (false, rest)
  | c :: rest =>
    if first then if c = '"' then .ok (true, rest) else .error .malformed
    else if c = ',' then
      match skipBlanks rest with
      | [] => .error .ended
      | '"' :: key => .ok (true, key)
      | _ => .error .malformed
    else .error .malformed

def readColon (s : List Char) : Except ReadFault (Unit × List Char) :=
  match skipBlanks s with
  | [] => .error .ended
  | ':' :: rest => .ok ((), rest)
  | _ => .error .malformed

/-- Nothing but blanks follows the document. -/
def closeText (s : List Char) : Except ReadFault Unit :=
  if (skipBlanks s).isEmpty then .ok () else .error .malformed

end RoutePlan.Json
