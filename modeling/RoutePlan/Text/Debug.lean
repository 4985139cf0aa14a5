import RoutePlan.Text.Property.Derived

/-! # Text made visible

A text between double quotes, in which every character shows. Marks that would attach to
their neighbour and characters without a shape are written as code points.
-/

namespace RoutePlan.Text

/-- Characters without a shape of their own; of the blanks only the space has one. -/
def isShapeless : CharSet := fun c =>
  c != ' ' && [Category.control, .format, .surrogate, .privateUse, .unassigned, .spaceSeparator,
    .lineSeparator, .paragraphSeparator].contains (Category.of c)

/-- The code point in braces. -/
def codePoint (c : Char) : List Char :=
  "\\u\x7b".toList ++ Nat.toDigits 16 c.toNat ++ ['\x7d']

def visibleChar (c : Char) : List Char :=
  match c with
  | '\x00' => ['\\', '0']
  | '\t' => ['\\', 't']
  | '\r' => ['\\', 'r']
  | '\n' => ['\\', 'n']
  | '"' => ['\\', '"']
  | '\\' => ['\\', '\\']
  | c =>
    if c.toNat ≥ 0x20 ∧ c.toNat < 0x7f then [c]
    else if Property.isGraphemeExtend c || isShapeless c then codePoint c
    else [c]

def visible (s : String) : String :=
  String.ofList ('"' :: s.toList.flatMap visibleChar ++ ['"'])

end RoutePlan.Text
