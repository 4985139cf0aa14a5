import RoutePlan.Text.CharSet

/-! # Blank characters

The blanks are the twenty-five characters with the Unicode property White_Space. A name
must be free of them, and a setting is read without the ones around it.
-/

namespace RoutePlan.Text

def isBlank : CharSet :=
  .ranges [(0x09, 0x0D), (0x20, 0x20), (0x85, 0x85), (0xA0, 0xA0), (0x1680, 0x1680),
    (0x2000, 0x200A), (0x2028, 0x2029), (0x202F, 0x202F), (0x205F, 0x205F), (0x3000, 0x3000)]

/-- Without the blanks at either end. -/
def trimBlanks (s : String) : String :=
  String.ofList ((s.toList.dropWhile isBlank).reverse.dropWhile isBlank).reverse

end RoutePlan.Text
