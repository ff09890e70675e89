import GraphLedger.Unicode.Category
import GraphLedger.Unicode.Property.Table

/-!
# Properties of characters

The properties that are true or false of a character, most of them as rules that take characters
from the general categories and add to them or take away from them what a table says; and all of
them under their names.
-/

namespace GraphLedger.Unicode

open Category

namespace Property

/-! ### Letters and case -/

/-- Alphabetic characters: letters, letter numbers, and what counts beside them. -/
def alphabetic : CharSet := .unions [letter, letterNumber, otherAlphabetic]

/-- Characters in upper case. -/
def upper : CharSet := upperLetter.union otherUpper

/-- Characters in lower case. -/
def lower : CharSet := lowerLetter.union otherLower

/-- Characters in upper, lower or title case. -/
def cased : CharSet := .unions [upper, lower, titleLetter]

/-- Characters that case mappings pass over between letters. -/
def caseIgnorable : CharSet :=
  .unions [nonspacingMark, enclosingMark, format, modifierLetter, modifierSymbol,
    otherCaseIgnorable]

/-- Characters that lower case changes. -/
def changedByLower : CharSet := (upper.union titleLetter).diff keptByLower

/-- Characters that upper case changes. -/
def changedByUpper : CharSet := (lower.union titleLetter).diff keptByUpper

/-- Characters that title case changes. -/
def changedByTitle : CharSet := (changedByUpper.union titledOnly).diff upperedOnly

/-- Characters that folding changes. -/
def changedByFold : CharSet := (changedByLower.union foldedOnly).diff loweredOnly

/-- Characters that lower, upper or title case changes. -/
def changedByCase : CharSet := .unions [changedByLower, changedByUpper, changedByTitle]

/-! ### Graphemes -/

/-- Characters that extend the one before rather than standing alone. -/
def graphemeExtend : CharSet := .unions [nonspacingMark, enclosingMark, otherExtender]

/-- Characters that a grapheme may begin with and that are seen. -/
def graphemeBase : CharSet :=
  (CharSet.unions [graphemeExtend, control, format, privateUse, unassigned, lineSeparator,
    paragraphSeparator]).compl

/-- Characters that join or keep apart their neighbours. -/
def joinControl : CharSet := .range 0x200C 0x200D

/-- Letters that stand for a region in pairs. -/
def regionalIndicator : CharSet := .range 0x1F1E6 0x1F1FF

/-! ### Identifiers -/

/-- What does not occur in identifiers. -/
def notInIdentifier : CharSet := patternSyntax.union patternBlank

/-- Characters at the start of identifiers. -/
def idStart : CharSet := (CharSet.unions [letter, letterNumber, otherIdStart]).diff notInIdentifier

/-- Characters within identifiers. -/
def idContinue : CharSet :=
  (CharSet.unions [idStart, nonspacingMark, spacingMark, decimalDigit, connector,
    otherIdContinue]).diff notInIdentifier

/-- What may be part of a word: alphabetic characters, marks, digits, connectors and joiners. -/
def wordPart : CharSet := .unions [alphabetic, mark, decimalDigit, connector, joinControl]

/-! ### Digits -/

/-- The digits of numbers in base sixteen, in ASCII. -/
def asciiHexDigit : CharSet := ⟨#[(0x30, 0x39), (0x41, 0x46), (0x61, 0x66)]⟩

/-- The digits of numbers in base sixteen, in ASCII and of full width. -/
def hexDigit : CharSet :=
  .union asciiHexDigit ⟨#[(0xFF10, 0xFF19), (0xFF21, 0xFF26), (0xFF41, 0xFF46)]⟩

/-! ### Names -/

/-- The properties with their names, in lower case and without spaces. -/
def table : List (List String × CharSet) := [
  (["ahex", "asciihexdigit"], asciiHexDigit),
  (["alpha", "alphabetic"], alphabetic),
  (["bidic", "bidicontrol"], bidiControl),
  (["bidim", "bidimirrored"], bidiMirrored),
  (["ci", "caseignorable"], caseIgnorable),
  (["cased"], cased),
  (["cwcf", "changeswhencasefolded"], changedByFold),
  (["cwcm", "changeswhencasemapped"], changedByCase),
  (["cwl", "changeswhenlowercased"], changedByLower),
  (["cwt", "changeswhentitlecased"], changedByTitle),
  (["cwu", "changeswhenuppercased"], changedByUpper),
  (["dash"], dash.union otherDash),
  (["di", "defaultignorablecodepoint"], ignorable),
  (["dep", "deprecated"], deprecated),
  (["dia", "diacritic"], diacritic),
  (["emoji"], emoji),
  (["ecomp", "emojicomponent"], emojiComponent),
  (["emod", "emojimodifier"], emojiModifier),
  (["ebase", "emojimodifierbase"], emojiModifierBase),
  (["epres", "emojipresentation"], emojiPresentation),
  (["extpict", "extendedpictographic"], pictographic),
  (["ext", "extender"], extender),
  (["grbase", "graphemebase"], graphemeBase),
  (["grext", "graphemeextend"], graphemeExtend),
  (["grlink", "graphemelink"], graphemeLink),
  (["hex", "hexdigit"], hexDigit),
  (["hyphen"], hyphen),
  (["idcompatmathcontinue"], mathStart.union mathContinue),
  (["idcompatmathstart"], mathStart),
  (["idc", "idcontinue"], idContinue),
  (["ids", "idstart"], idStart),
  (["idsb", "idsbinaryoperator"], binaryIdeograph),
  (["idst", "idstrinaryoperator"], trinaryIdeograph),
  (["idsu", "idsunaryoperator"], unaryIdeograph),
  (["ideo", "ideographic"], ideographic),
  (["joinc", "joincontrol"], joinControl),
  (["loe", "logicalorderexception"], logicalOrderException),
  (["lower", "lowercase"], lower),
  (["math"], mathSymbol.union otherMath),
  (["mcm", "modifiercombiningmark"], modifierMark),
  (["nchar", "noncharactercodepoint"], noncharacter),
  (["oalpha", "otheralphabetic"], otherAlphabetic),
  (["odi", "otherdefaultignorablecodepoint"], otherIgnorable),
  (["ogrext", "othergraphemeextend"], otherExtender),
  (["oidc", "otheridcontinue"], otherIdContinue),
  (["oids", "otheridstart"], otherIdStart),
  (["olower", "otherlowercase"], otherLower),
  (["omath", "othermath"], otherMath),
  (["oupper", "otheruppercase"], otherUpper),
  (["patsyn", "patternsyntax"], patternSyntax),
  (["patws", "patternwhitespace"], patternBlank),
  (["pcm", "prependedconcatenationmark"], prependedMark),
  (["qmark", "quotationmark"], quotation),
  (["radical"], radical),
  (["ri", "regionalindicator"], regionalIndicator),
  (["sterm", "sentenceterminal"], sentenceEnd),
  (["sd", "softdotted"], softDotted),
  (["term", "terminalpunctuation"], textEnd),
  (["uideo", "unifiedideograph"], unifiedIdeograph),
  (["upper", "uppercase"], upper),
  (["vs", "variationselector"], variationSelector),
  (["wspace", "space", "whitespace"], blank),
  (["xidc", "xidcontinue"], idContinue.diff unnormalContinue),
  (["xids", "xidstart"], idStart.diff unnormalStart)]

/-- The property of a name. -/
def ofName? (name : String) : Option CharSet :=
  (table.find? fun p => p.1.contains name).map Prod.snd

end Property

end GraphLedger.Unicode
