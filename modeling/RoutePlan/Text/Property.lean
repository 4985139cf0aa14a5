import RoutePlan.Text.Age
import RoutePlan.Text.Segmentation

/-! # Properties of characters

A property is asked for by name, in any case and with blanks, hyphens and underscores
between its words: a general category, a script, or one of the properties that hold or do
not hold of a character. The category, the script and other properties with several values
are also asked for by their name and a value.
-/

namespace RoutePlan.Text.Property

def letter : List Category :=
  [.upperLetter, .lowerLetter, .titleLetter, .modifierLetter, .otherLetter]

def mark : List Category := [.nonspacingMark, .spacingMark, .enclosingMark]

def number : List Category := [.decimalDigit, .letterNumber, .otherNumber]

def punctuation : List Category :=
  [.connector, .dash, .openPunctuation, .closePunctuation, .initialQuote, .finalQuote,
    .otherPunctuation]

def symbol : List Category := [.mathSymbol, .currencySymbol, .modifierSymbol, .otherSymbol]

def separator : List Category := [.spaceSeparator, .lineSeparator, .paragraphSeparator]

def other : List Category := [.control, .format, .surrogate, .privateUse, .unassigned]

/-- The categories that a name stands for. No character is a surrogate, so that category has no
name. -/
def categories? : String → Option (List Category)
  | "c" | "other" => some other
  | "cc" | "control" | "cntrl" => some [.control]
  | "cf" | "format" => some [.format]
  | "cn" | "unassigned" => some [.unassigned]
  | "co" | "privateuse" => some [.privateUse]
  | "l" | "letter" => some letter
  | "lc" | "casedletter" => some [.upperLetter, .lowerLetter, .titleLetter]
  | "ll" | "lowercaseletter" => some [.lowerLetter]
  | "lm" | "modifierletter" => some [.modifierLetter]
  | "lo" | "otherletter" => some [.otherLetter]
  | "lt" | "titlecaseletter" => some [.titleLetter]
  | "lu" | "uppercaseletter" => some [.upperLetter]
  | "m" | "mark" | "combiningmark" => some mark
  | "mc" | "spacingmark" => some [.spacingMark]
  | "me" | "enclosingmark" => some [.enclosingMark]
  | "mn" | "nonspacingmark" => some [.nonspacingMark]
  | "n" | "number" => some number
  | "nd" | "decimalnumber" | "digit" => some [.decimalDigit]
  | "nl" | "letternumber" => some [.letterNumber]
  | "no" | "othernumber" => some [.otherNumber]
  | "p" | "punctuation" | "punct" => some punctuation
  | "pc" | "connectorpunctuation" => some [.connector]
  | "pd" | "dashpunctuation" => some [.dash]
  | "pe" | "closepunctuation" => some [.closePunctuation]
  | "pf" | "finalpunctuation" => some [.finalQuote]
  | "pi" | "initialpunctuation" => some [.initialQuote]
  | "po" | "otherpunctuation" => some [.otherPunctuation]
  | "ps" | "openpunctuation" => some [.openPunctuation]
  | "s" | "symbol" => some symbol
  | "sc" | "currencysymbol" => some [.currencySymbol]
  | "sk" | "modifiersymbol" => some [.modifierSymbol]
  | "sm" | "mathsymbol" => some [.mathSymbol]
  | "so" | "othersymbol" => some [.otherSymbol]
  | "z" | "separator" => some separator
  | "zl" | "lineseparator" => some [.lineSeparator]
  | "zp" | "paragraphseparator" => some [.paragraphSeparator]
  | "zs" | "spaceseparator" => some [.spaceSeparator]
  | "any" => some Category.all
  | _ => none

def ofCategories (ks : List Category) : CharSet := fun c => ks.contains (Category.of c)

/-- The properties that hold or do not hold of a character, under their names. -/
def binary : List (List String × CharSet) := [
  (["alphabetic", "alpha"], isAlphabetic),
  (["asciihexdigit", "ahex"], asciiHexDigit),
  (["bidicontrol", "bidic"], bidiControl),
  (["bidimirrored", "bidim"], bidiMirrored),
  (["cased"], isCased),
  (["caseignorable", "ci"], isCaseIgnorable),
  (["changeswhencasefolded", "cwcf"], changesWhenFolded),
  (["changeswhencasemapped", "cwcm"], changesWhenMapped),
  (["changeswhenlowercased", "cwl"], changesWhenLowercased),
  (["changeswhentitlecased", "cwt"], changesWhenTitlecased),
  (["changeswhenuppercased", "cwu"], changesWhenUppercased),
  (["dash"], isDash),
  (["defaultignorablecodepoint", "di"], isDefaultIgnorable),
  (["deprecated", "dep"], deprecated),
  (["diacritic", "dia"], diacritic),
  (["emoji"], emoji),
  (["emojicomponent", "ecomp"], emojiComponent),
  (["emojimodifier", "emod"], emojiModifier),
  (["emojimodifierbase", "ebase"], emojiModifierBase),
  (["emojipresentation", "epres"], emojiPresentation),
  (["extendedpictographic", "extpict"], extendedPictographic),
  (["extender", "ext"], extender),
  (["graphemebase", "grbase"], isGraphemeBase),
  (["graphemeextend", "grext"], isGraphemeExtend),
  (["graphemelink", "grlink"], graphemeLink),
  (["hexdigit", "hex"], hexDigit),
  (["hyphen"], hyphen),
  (["idcompatmathcontinue"], mathIdentifierContinue),
  (["idcompatmathstart"], mathIdentifierStart),
  (["idcontinue", "idc"], isIdentifierContinue),
  (["idstart", "ids"], isIdentifierStart),
  (["ideographic", "ideo"], ideographic),
  (["idsbinaryoperator", "idsb"], ideographBinaryOperator),
  (["idstrinaryoperator", "idst"], ideographTrinaryOperator),
  (["idsunaryoperator", "idsu"], ideographUnaryOperator),
  (["joincontrol", "joinc"], isJoiner),
  (["logicalorderexception", "loe"], logicalOrderException),
  (["lowercase", "lower"], isLowercase),
  (["math"], isMath),
  (["modifiercombiningmark", "mcm"], modifierCombiningMark),
  (["noncharactercodepoint", "nchar"], isNoncharacter),
  (["otheralphabetic", "oalpha"], otherAlphabetic),
  (["otherdefaultignorablecodepoint", "odi"], otherIgnorable),
  (["othergraphemeextend", "ogrext"], otherGraphemeExtend),
  (["otheridcontinue", "oidc"], otherIdentifierContinue),
  (["otheridstart", "oids"], otherIdentifierStart),
  (["otherlowercase", "olower"], otherLowercase),
  (["othermath", "omath"], otherMath),
  (["otheruppercase", "oupper"], otherUppercase),
  (["patternsyntax", "patsyn"], patternSyntax),
  (["patternwhitespace", "patws"], patternWhiteSpace),
  (["prependedconcatenationmark", "pcm"], prependedConcatenationMark),
  (["quotationmark", "qmark"], quotationMark),
  (["radical"], radical),
  (["regionalindicator", "ri"], regionalIndicator),
  (["sentenceterminal", "sterm"], sentenceTerminal),
  (["softdotted", "sd"], softDotted),
  (["terminalpunctuation", "term"], terminalPunctuation),
  (["unifiedideograph", "uideo"], unifiedIdeograph),
  (["uppercase", "upper"], isUppercase),
  (["variationselector", "vs"], variationSelector),
  (["whitespace", "wspace", "space"], isBlank),
  (["xidcontinue", "xidc"], isIdentifierContinue.diff unstableContinue),
  (["xidstart", "xids"], isIdentifierStart.diff unstableStart)]

def binary? (name : String) : Option CharSet :=
  (binary.find? fun row => row.1.contains name).map Prod.snd

def category? (name : String) : Option CharSet :=
  match name with
  | "ascii" => some (.between '\x00' '\x7f')
  | "assigned" => some fun c => Category.of c != .unassigned
  | _ => (categories? name).map ofCategories

/-- The words of a name run together in lower case, without a leading `is`. -/
def normalize (query : List Char) : String :=
  let lower := query.map Char.toLower
  let body := match lower with
    | 'i' :: 's' :: rest => rest
    | _ => lower
  let kept := body.filter fun c => c.toNat < 128 && !" _-".toList.contains c
  if body.length < lower.length ∧ kept = ['c'] then "isc" else String.ofList kept

/-- A property by one name. Three names of categories are also names of other properties,
and stand for the categories. -/
def named? (name : String) : Option CharSet :=
  let plain := if name = "cf" ∨ name = "sc" ∨ name = "lc" then none
    else binary? name
  plain.or ((category? name).or (Script.members? name))

/-- A property that has one of many values, by its name and the name of the value. -/
def valued? (name value : String) : Option CharSet :=
  match name with
  | "gc" | "generalcategory" => category? value
  | "sc" | "script" => Script.members? value
  | "scx" | "scriptextensions" => Script.extension? value
  | "age" => Age.upTo? value
  | "gcb" | "graphemeclusterbreak" => Segmentation.graphemeBreak? value
  | "wb" | "wordbreak" => Segmentation.wordBreak? value
  | "sb" | "sentencebreak" => Segmentation.sentenceBreak? value
  | _ => none

/-- The parts around the first place where a separator stands. -/
def split? (separator : List Char) : List Char → Option (List Char × List Char)
  | [] => none
  | c :: rest =>
    if separator.isPrefixOf (c :: rest) then some ([], (c :: rest).drop separator.length)
    else (split? separator rest).map fun (before, after) => (c :: before, after)

/-- The property a query asks for, and whether the query asks for its complement. -/
def find? (query : List Char) : Option (Bool × CharSet) :=
  let valued (reversed : Bool) (parts : List Char × List Char) : Option (Bool × CharSet) :=
    (valued? (normalize parts.1) (normalize parts.2)).map (reversed, ·)
  match split? ['!', '='] query, split? [':'] query, split? ['='] query with
  | some parts, _, _ => valued true parts
  | none, some parts, _ => valued false parts
  | none, none, some parts => valued false parts
  | none, none, none => (named? (normalize query)).map (false, ·)

end RoutePlan.Text.Property
