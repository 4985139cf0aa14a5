import RoutePlan.Text.Blank
import RoutePlan.Text.Folding
import RoutePlan.Text.Property.Ranges
import RoutePlan.Text.Word

/-! # Derived properties

The properties of characters that are read off their categories, off case folding and off the
properties kept as ranges.
-/

namespace RoutePlan.Text.Property

/-! ## Letters and their case -/

def isAlphabetic : CharSet := fun c =>
  let k := Category.of c
  k.isLetter || k == .letterNumber || otherAlphabetic c

def isLowercase : CharSet := fun c => Category.of c == .lowerLetter || otherLowercase c

def isUppercase : CharSet := fun c => Category.of c == .upperLetter || otherUppercase c

def isCased : CharSet := fun c =>
  isLowercase c || isUppercase c || Category.of c == .titleLetter

/-- Marks, modifiers and the punctuation inside words, which no case rule looks at. -/
def isCaseIgnorable : CharSet := fun c =>
  [Category.nonspacingMark, .enclosingMark, .format, .modifierLetter, .modifierSymbol].contains
      (Category.of c) ||
    c == '\'' || midLetter c || midNumLet c

/-- Characters that fold to several characters at once. -/
def foldsApart : CharSet := .ranges [
  (0xDF, 0xDF), (0x130, 0x130), (0x149, 0x149), (0x587, 0x587), (0x1E9A, 0x1E9A), (0x1F80, 0x1F87),
  (0x1F90, 0x1F97), (0x1FA0, 0x1FA7), (0x1FB2, 0x1FB4), (0x1FB7, 0x1FB7), (0x1FC2, 0x1FC4),
  (0x1FC7, 0x1FC7), (0x1FF2, 0x1FF4), (0x1FF7, 0x1FF7), (0xFB00, 0xFB04), (0xFB06, 0xFB06),
  (0xFB13, 0xFB17)]

/-- Characters whose upper case is several characters. -/
def risesApart : CharSet := .ranges [
  (0x131, 0x131), (0x149, 0x149), (0x1F0, 0x1F0), (0x587, 0x587), (0x1E96, 0x1E9A),
  (0x1F50, 0x1F50), (0x1F52, 0x1F52), (0x1F54, 0x1F54), (0x1F56, 0x1F56), (0x1FB2, 0x1FB2),
  (0x1FB4, 0x1FB4), (0x1FB6, 0x1FB7), (0x1FC2, 0x1FC2), (0x1FC4, 0x1FC4), (0x1FC6, 0x1FC7),
  (0x1FD2, 0x1FD2), (0x1FD6, 0x1FD7), (0x1FE2, 0x1FE2), (0x1FE4, 0x1FE4), (0x1FE6, 0x1FE7),
  (0x1FF2, 0x1FF2), (0x1FF4, 0x1FF4), (0x1FF6, 0x1FF7), (0xFB00, 0xFB04), (0xFB13, 0xFB17)]

/-- Georgian letters, which have an upper case but no title case. -/
def georgianLetter : CharSet := .ranges [(0x10D0, 0x10FA), (0x10FD, 0x10FF)]

/-- Cherokee capitals, which their small letters fold to. -/
def cherokeeCapital : CharSet := .ranges [(0x13A0, 0x13F5)]

/-- Three Greek letters are the same as what they fold to. -/
def changesWhenFolded : CharSet := fun c =>
  (Folding.fold c.toNat != c.toNat && !([0x1FBE, 0x1FD3, 0x1FE3].contains c.toNat)) ||
    foldsApart c

def changesWhenLowercased : CharSet := fun c =>
  ((isUppercase c || Category.of c == .titleLetter) && Folding.fold c.toNat != c.toNat) ||
    c == '\u0130' || cherokeeCapital c

def changesWhenUppercased : CharSet := fun c =>
  ((isLowercase c || Category.of c == .titleLetter) && !(Folding.variants c).isEmpty) ||
    risesApart c

/-- The capitals of digraphs have a title case of their own. -/
def changesWhenTitlecased : CharSet := fun c =>
  (changesWhenUppercased c && Category.of c != .titleLetter && !georgianLetter c) ||
    [0x1C4, 0x1C7, 0x1CA, 0x1F1].contains c.toNat

def changesWhenMapped : CharSet := fun c =>
  changesWhenLowercased c || changesWhenUppercased c || changesWhenTitlecased c

/-! ## Identifiers -/

def isReserved : CharSet := fun c => patternSyntax c || patternWhiteSpace c

def isIdentifierStart : CharSet := fun c =>
  let k := Category.of c
  (k.isLetter || k == .letterNumber || otherIdentifierStart c) && !isReserved c

def isIdentifierContinue : CharSet := fun c =>
  let k := Category.of c
  isIdentifierStart c ||
    ((k == .nonspacingMark || k == .spacingMark || k == .decimalDigit || k == .connector ||
      otherIdentifierContinue c) && !isReserved c)

/-- Characters that may start an identifier but not once the text is normalized. -/
def unstableStart : CharSet := .ranges [
  (0x37A, 0x37A), (0xE33, 0xE33), (0xEB3, 0xEB3), (0x309B, 0x309C), (0xFC5E, 0xFC63),
  (0xFDFA, 0xFDFB), (0xFE70, 0xFE70), (0xFE72, 0xFE72), (0xFE74, 0xFE74), (0xFE76, 0xFE76),
  (0xFE78, 0xFE78), (0xFE7A, 0xFE7A), (0xFE7C, 0xFE7C), (0xFE7E, 0xFE7E), (0xFF9E, 0xFF9F)]

def unstableContinue : CharSet := .ranges [
  (0x37A, 0x37A), (0x309B, 0x309C), (0xFC5E, 0xFC63), (0xFDFA, 0xFDFB), (0xFE70, 0xFE70),
  (0xFE72, 0xFE72), (0xFE74, 0xFE74), (0xFE76, 0xFE76), (0xFE78, 0xFE78), (0xFE7A, 0xFE7A),
  (0xFE7C, 0xFE7C), (0xFE7E, 0xFE7E)]

/-- Beside the mathematical letters, the digits above and below the line. -/
def mathIdentifierContinue : CharSet := fun c =>
  mathIdentifierStart c ||
    CharSet.ranges [(0xB2, 0xB3), (0xB9, 0xB9), (0x2070, 0x2070), (0x2074, 0x207E),
      (0x2080, 0x208E)] c

/-! ## Graphemes -/

def isGraphemeExtend : CharSet := fun c =>
  let k := Category.of c
  k == .nonspacingMark || k == .enclosingMark || otherGraphemeExtend c

def isGraphemeBase : CharSet := fun c =>
  let k := Category.of c
  !([Category.control, .format, .surrogate, .privateUse, .unassigned, .lineSeparator,
    .paragraphSeparator].contains k) && !isGraphemeExtend c

/-! ## Other characters -/

def isMath : CharSet := fun c => Category.of c == .mathSymbol || otherMath c

def isDash : CharSet := fun c =>
  Category.of c == .dash || [0x2053, 0x207B, 0x208B, 0x2212].contains c.toNat

/-- Format characters that leave no trace, less those that annotate a text and those that join
signs. -/
def isDefaultIgnorable : CharSet := fun c =>
  (otherIgnorable c || Category.of c == .format || variationSelector c) &&
    !(isBlank c || prependedConcatenationMark c ||
      CharSet.ranges [(0xFFF9, 0xFFFB), (0x13430, 0x13440)] c)

/-- The last two code points of every plane, and some among the presentation forms. -/
def isNoncharacter : CharSet := fun c =>
  c.toNat % 0x10000 ≥ 0xFFFE || CharSet.between '\ufdd0' '\ufdef' c

end RoutePlan.Text.Property
