import RoutePlan.Text.Property.Derived
import RoutePlan.Text.Script

/-! # Segmentation

The classes by which a text is cut into graphemes, words and sentences. Each class is asked for by
its short or its long name, in lower case and without separators.
-/

namespace RoutePlan.Text.Segmentation

open Property

def ofScript (name : String) : CharSet := (Script.members? name).getD .empty

/-! ## Graphemes -/

def graphemeExtend : CharSet := fun c => isGraphemeExtend c || emojiModifier c

/-- Line ends, controls and format characters, and what is kept free for such. -/
def graphemeControl : CharSet := fun c =>
  let k := Category.of c
  (k == .lineSeparator || k == .paragraphSeparator || k == .control || k == .format ||
      (k == .unassigned && isDefaultIgnorable c)) &&
    !(c == '\r' || c == '\n' || isJoiner c || prependedConcatenationMark c || graphemeExtend c)

/-- Marks and consonants that are written before what they belong to. -/
def graphemePrepend : CharSet := fun c =>
  prependedConcatenationMark c ||
    CharSet.ranges [(0xD4E, 0xD4E), (0x111C2, 0x111C3), (0x113D1, 0x113D1), (0x1193F, 0x1193F),
      (0x11941, 0x11941), (0x11A3A, 0x11A3A), (0x11A84, 0x11A89), (0x11D46, 0x11D46),
      (0x11F02, 0x11F02)] c

/-- Vowel signs that stand by themselves in spite of their category. -/
def freeSpacingMark : CharSet := .ranges [
  (0x102B, 0x102C), (0x1038, 0x1038), (0x1062, 0x1064), (0x1067, 0x106D), (0x1083, 0x1083),
  (0x1087, 0x108C), (0x108F, 0x108F), (0x109A, 0x109C), (0x1A61, 0x1A61), (0x1A63, 0x1A64),
  (0xAA7B, 0xAA7B), (0xAA7D, 0xAA7D), (0x11720, 0x11721)]

def graphemeSpacing : CharSet := fun c =>
  (Category.of c == .spacingMark || c == '\u0e33' || c == '\u0eb3') &&
    !(graphemeExtend c || freeSpacingMark c)

def hangulSyllable : CharSet := .between '\uac00' '\ud7a3'

/-- Whether a syllable ends in its vowel. -/
def isOpenSyllable : CharSet := fun c => (c.toNat - 0xAC00) % 28 == 0

def graphemeBreak? : String → Option CharSet
  | "cr" => some (.single '\r')
  | "lf" => some (.single '\n')
  | "control" | "cn" => some graphemeControl
  | "extend" | "ex" => some graphemeExtend
  | "prepend" | "pp" => some graphemePrepend
  | "spacingmark" | "sm" => some graphemeSpacing
  | "regionalindicator" | "ri" => some regionalIndicator
  | "zwj" => some (.single '\u200d')
  | "l" => some (.ranges [(0x1100, 0x115F), (0xA960, 0xA97C)])
  | "v" => some (.ranges [(0x1160, 0x11A7), (0xD7B0, 0xD7C6), (0x16D63, 0x16D63),
      (0x16D67, 0x16D6A)])
  | "t" => some (.ranges [(0x11A8, 0x11FF), (0xD7CB, 0xD7FB)])
  | "lv" => some (hangulSyllable.inter isOpenSyllable)
  | "lvt" => some (hangulSyllable.diff isOpenSyllable)
  | _ => none

/-! ## Words -/

def wordExtend : CharSet := fun c => graphemeExtend c || Category.of c == .spacingMark

def wordFormat : CharSet := fun c =>
  Category.of c == .format &&
    !(c == '\u200b' || isJoiner c || prependedConcatenationMark c || wordExtend c)

def hebrewLetter : CharSet := fun c => Category.of c == .otherLetter && ofScript "hebrew" c

def wordKatakana : CharSet := fun c =>
  ofScript "katakana" c ||
    CharSet.ranges [(0x3031, 0x3035), (0x309B, 0x309C), (0x30A0, 0x30A0), (0x30FC, 0x30FC),
      (0xFF70, 0xFF70)] c

/-- Letters of the scripts that do not part words. -/
def unpartedLetter : CharSet := fun c =>
  ["thai", "lao", "myanmar", "khmer", "taile", "newtailue", "taitham", "taiviet", "ahom"].any
    fun script => ofScript script c

/-- Modifiers and marks that count as letters of words. -/
def letterModifier : CharSet := .ranges [
  (0x2C2, 0x2C5), (0x2D2, 0x2D7), (0x2DE, 0x2DF), (0x2E5, 0x2EB), (0x2ED, 0x2ED), (0x2EF, 0x2FF),
  (0x55A, 0x55C), (0x55E, 0x55E), (0x58A, 0x58A), (0x5F3, 0x5F3), (0x70F, 0x70F), (0xA708, 0xA716),
  (0xA720, 0xA721), (0xA789, 0xA78A), (0xAB5B, 0xAB5B)]

def wordLetter : CharSet := fun c =>
  (isAlphabetic c && !(ideographic c || wordKatakana c || ofScript "hiragana" c || wordExtend c ||
      hebrewLetter c || unpartedLetter c)) || letterModifier c

/-- Digits, the marks around numbers and the Arabic decimal separator. -/
def wordNumeric : CharSet := fun c =>
  Category.of c == .decimalDigit || (prependedConcatenationMark c && c != '\u070f') ||
    c == '\u066b' || c == '\u19da'

def midNum : CharSet := .ranges [
  (0x2C, 0x2C), (0x3B, 0x3B), (0x37E, 0x37E), (0x589, 0x589), (0x60C, 0x60D), (0x66C, 0x66C),
  (0x7F8, 0x7F8), (0x2044, 0x2044), (0xFE50, 0xFE50), (0xFE54, 0xFE54), (0xFF0C, 0xFF0C),
  (0xFF1B, 0xFF1B)]

/-- Blanks where a line may end. -/
def wordSpace : CharSet := fun c =>
  Category.of c == .spaceSeparator && !([0xA0, 0x2007, 0x202F].contains c.toNat)

def wordBreak? : String → Option CharSet
  | "cr" => some (.single '\r')
  | "lf" => some (.single '\n')
  | "newline" | "nl" => some (.ranges [(0xB, 0xC), (0x85, 0x85), (0x2028, 0x2029)])
  | "extend" => some wordExtend
  | "format" | "fo" => some wordFormat
  | "zwj" => some (.single '\u200d')
  | "regionalindicator" | "ri" => some regionalIndicator
  | "katakana" | "ka" => some wordKatakana
  | "hebrewletter" | "hl" => some hebrewLetter
  | "aletter" | "le" => some wordLetter
  | "singlequote" | "sq" => some (.single '\'')
  | "doublequote" | "dq" => some (.single '"')
  | "midnumlet" | "mb" => some midNumLet
  | "midletter" | "ml" => some midLetter
  | "midnum" | "mn" => some midNum
  | "numeric" | "nu" => some wordNumeric
  | "extendnumlet" | "ex" => some fun c => Category.of c == .connector || c == '\u202f'
  | "wsegspace" => some wordSpace
  | _ => none

/-! ## Sentences -/

def sentenceSeparator : CharSet := .ranges [(0x85, 0x85), (0x2028, 0x2029)]

def sentenceExtend : CharSet := fun c =>
  isGraphemeExtend c || Category.of c == .spacingMark || c == '\u200d'

def sentenceNumeric : CharSet := fun c => wordNumeric c || c == '\u066c'

def sentenceLower : CharSet := fun c =>
  isLowercase c && !(isGraphemeExtend c || georgianLetter c)

def sentenceUpper : CharSet := fun c =>
  (isUppercase c || Category.of c == .titleLetter) &&
    !CharSet.ranges [(0x1C90, 0x1CBA), (0x1CBD, 0x1CBF)] c

/-- Full stops, which need not end a sentence. -/
def fullStop : CharSet := .ranges [
  (0x2E, 0x2E), (0x2024, 0x2024), (0xFE52, 0xFE52), (0xFF0E, 0xFF0E)]

/-- Punctuation after which a sentence goes on. -/
def sentenceContinue : CharSet := .ranges [
  (0x2C, 0x2D), (0x3A, 0x3B), (0x37E, 0x37E), (0x55D, 0x55D), (0x60C, 0x60D), (0x7F8, 0x7F8),
  (0x1802, 0x1802), (0x1808, 0x1808), (0x2013, 0x2014), (0x3001, 0x3001), (0xFE10, 0xFE11),
  (0xFE13, 0xFE14), (0xFE31, 0xFE32), (0xFE50, 0xFE51), (0xFE54, 0xFE55), (0xFE58, 0xFE58),
  (0xFE63, 0xFE63), (0xFF0C, 0xFF0D), (0xFF1A, 0xFF1B), (0xFF64, 0xFF64)]

/-- Quotes and brackets, less the wide quotes, with the ornaments and the editorial marks that look
like them. -/
def sentenceClose : CharSet := fun c =>
  (([Category.openPunctuation, .closePunctuation, .initialQuote, .finalQuote].contains
        (Category.of c) || quotationMark c) && c != '\uff02' && c != '\uff07') ||
    CharSet.ranges [(0x275B, 0x2760), (0x2E00, 0x2E01), (0x2E06, 0x2E08), (0x2E0B, 0x2E0B),
      (0x1F676, 0x1F678)] c

def sentenceBreak? : String → Option CharSet
  | "cr" => some (.single '\r')
  | "lf" => some (.single '\n')
  | "sep" | "se" => some sentenceSeparator
  | "sp" => some fun c => isBlank c && !(sentenceSeparator c || c == '\r' || c == '\n')
  | "extend" | "ex" => some sentenceExtend
  | "format" | "fo" => some fun c =>
    Category.of c == .format && !(isJoiner c || sentenceExtend c || sentenceNumeric c)
  | "lower" | "lo" => some sentenceLower
  | "upper" | "up" => some sentenceUpper
  | "oletter" | "le" => some fun c =>
    (isAlphabetic c || c == '\u05f3') && !(sentenceLower c || sentenceUpper c || sentenceExtend c)
  | "numeric" | "nu" => some sentenceNumeric
  | "aterm" | "at" => some fullStop
  | "sterm" | "st" => some (sentenceTerminal.diff fullStop)
  | "scontinue" | "sc" => some sentenceContinue
  | "close" | "cl" => some sentenceClose
  | _ => none

end RoutePlan.Text.Segmentation
