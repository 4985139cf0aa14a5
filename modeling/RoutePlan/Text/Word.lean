import RoutePlan.Text.CharSet
import RoutePlan.Text.Category

/-! # Word characters

Letters, marks, decimal digits and connectors make words, and so do the enclosed letters
and the two joiners, which are symbols and format characters by category.
-/

namespace RoutePlan.Text

/-- Symbols that count as letters: circled, squared and negative Latin letters. -/
def isEnclosedLetter : CharSet :=
  .ranges [(0x24B6, 0x24E9), (0x1F130, 0x1F149), (0x1F150, 0x1F169), (0x1F170, 0x1F189)]

def isJoiner : CharSet := .between '\u200c' '\u200d'

def Category.isLetter : Category → Bool
  | .upperLetter | .lowerLetter | .titleLetter | .modifierLetter | .otherLetter => true
  | _ => false

def Category.isMark : Category → Bool
  | .nonspacingMark | .spacingMark | .enclosingMark => true
  | _ => false

def Category.isNumber : Category → Bool
  | .decimalDigit | .letterNumber | .otherNumber => true
  | _ => false

/-- Letters and the numbers that are written with letters. -/
def isLetterLike : CharSet := fun c =>
  let k := Category.of c
  k.isLetter || k == .letterNumber || isEnclosedLetter c

def isWordChar : CharSet := fun c =>
  let k := Category.of c
  k.isLetter || k.isMark || k == .decimalDigit || k == .letterNumber || k == .connector ||
    isEnclosedLetter c || isJoiner c

/-- The word characters of ASCII alone. -/
def isAsciiWordChar : CharSet := fun c => c.isAlphanum || c == '_'

end RoutePlan.Text
