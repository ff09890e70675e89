import GraphLedger.Unicode.Age
import GraphLedger.Unicode.Fold
import GraphLedger.Unicode.ScriptExtension
import GraphLedger.Unicode.Segment

/-!
# Classes of characters by name

Classes are named: by the short classes for digits, blanks and words, by the classes in brackets
with colons, and by the properties of Unicode, whose names are read without regard to case and
spaces.
-/

namespace GraphLedger.Pattern

open Unicode

namespace CharClass

/-! ### Short classes -/

/-- The ASCII digits. -/
def asciiDigit : CharSet := .range 48 57

/-- The ASCII blanks. -/
def asciiSpace : CharSet := ⟨#[(9, 13), (32, 32)]⟩

/-- The ASCII characters of words. -/
def asciiWord : CharSet := ⟨#[(48, 57), (65, 90), (95, 95), (97, 122)]⟩

/-- The digits. -/
def digit : CharSet := Category.decimalDigit

/-- The blanks. -/
def space : CharSet := Property.blank

/-- The characters of words. -/
def word : CharSet := Property.wordPart

/-- The characters that a set holds up to case in ASCII. -/
def foldedAscii (s : CharSet) : CharSet :=
  let letters := (List.range 26).filter fun n => s.contains (65 + n) || s.contains (97 + n)
  .unions [s, .ofList (letters.map (65 + ·)), .ofList (letters.map (97 + ·))]

/-! ### Classes in brackets with colons -/

/-- The class of a name between `[:` and `:]`. -/
def ascii? (name : String) : Option CharSet :=
  match name with
  | "alnum" => some ⟨#[(48, 57), (65, 90), (97, 122)]⟩
  | "alpha" => some ⟨#[(65, 90), (97, 122)]⟩
  | "ascii" => some (.range 0 127)
  | "blank" => some ⟨#[(9, 9), (32, 32)]⟩
  | "cntrl" => some ⟨#[(0, 31), (127, 127)]⟩
  | "digit" => some asciiDigit
  | "graph" => some (.range 33 126)
  | "lower" => some (.range 97 122)
  | "print" => some (.range 32 126)
  | "punct" => some ⟨#[(33, 47), (58, 64), (91, 96), (123, 126)]⟩
  | "space" => some asciiSpace
  | "upper" => some (.range 65 90)
  | "word" => some asciiWord
  | "xdigit" => some Property.asciiHexDigit
  | _ => none

/-! ### Properties -/

/-- The general categories and their groups, each with its names. -/
def categories : List (List String × CharSet) := [
  (["any"], .all),
  (["ascii"], .range 0 127),
  (["assigned"], Category.assigned),
  (["c", "other"], Category.other),
  (["cc", "control", "cntrl"], Category.control),
  (["cf", "format"], Category.format),
  (["cn", "unassigned"], Category.unassigned),
  (["co", "privateuse"], Category.privateUse),
  (["l", "letter"], Category.letter),
  (["lc", "casedletter"], Category.casedLetter),
  (["ll", "lowercaseletter"], Category.lowerLetter),
  (["lm", "modifierletter"], Category.modifierLetter),
  (["lo", "otherletter"], Category.otherLetter),
  (["lt", "titlecaseletter"], Category.titleLetter),
  (["lu", "uppercaseletter"], Category.upperLetter),
  (["m", "mark", "combiningmark"], Category.mark),
  (["mc", "spacingmark"], Category.spacingMark),
  (["me", "enclosingmark"], Category.enclosingMark),
  (["mn", "nonspacingmark"], Category.nonspacingMark),
  (["n", "number"], Category.number),
  (["nd", "decimalnumber", "digit"], Category.decimalDigit),
  (["nl", "letternumber"], Category.letterNumber),
  (["no", "othernumber"], Category.otherNumber),
  (["p", "punctuation", "punct"], Category.punctuation),
  (["pc", "connectorpunctuation"], Category.connector),
  (["pd", "dashpunctuation"], Category.dash),
  (["pe", "closepunctuation"], Category.closeMark),
  (["pf", "finalpunctuation"], Category.finalQuote),
  (["pi", "initialpunctuation"], Category.initialQuote),
  (["po", "otherpunctuation"], Category.otherMark),
  (["ps", "openpunctuation"], Category.openMark),
  (["s", "symbol"], Category.symbol),
  (["sc", "currencysymbol"], Category.currencySymbol),
  (["sk", "modifiersymbol"], Category.modifierSymbol),
  (["sm", "mathsymbol"], Category.mathSymbol),
  (["so", "othersymbol"], Category.otherSymbol),
  (["z", "separator"], Category.separator),
  (["zl", "lineseparator"], Category.lineSeparator),
  (["zp", "paragraphseparator"], Category.paragraphSeparator),
  (["zs", "spaceseparator"], Category.spaceSeparator)]

/-- The general category or group of a name. -/
def category? (name : String) : Option CharSet :=
  (categories.find? fun p => p.1.contains name).map Prod.snd

/-- A name in lower case, without blanks, hyphens, underscores and what is not ASCII, and without
`is` at its start unless that is all but a last `c`. -/
def normalName (name : List Char) : String :=
  let kept (cs : List Char) : List Char :=
    (cs.filter fun c => c != ' ' && c != '-' && c != '_' && c.toNat < 128).map Char.toLower
  match name with
  | i :: s :: rest =>
    if i.toLower = 'i' && s.toLower = 's' then
      if kept rest = ['c'] then "isc" else String.ofList (kept rest)
    else String.ofList (kept name)
  | _ => String.ofList (kept name)

/-- The class of a name alone: a property, a category or a script. -/
def ofName? (name : List Char) : Option CharSet :=
  let n := normalName name
  Property.ofName? n <|> category? n <|> Script.ofName? n

/-- The class of a value of a named property. -/
def ofValue? (property value : List Char) : Option CharSet :=
  let v := normalName value
  match normalName property with
  | "gc" => category? v
  | "generalcategory" => category? v
  | "sc" => Script.ofName? v
  | "script" => Script.ofName? v
  | "scx" => ScriptExtension.ofName? v
  | "scriptextensions" => ScriptExtension.ofName? v
  | "age" => Age.ofName? v
  | "gcb" => Segment.named? Segment.grapheme v
  | "graphemeclusterbreak" => Segment.named? Segment.grapheme v
  | "wb" => Segment.named? Segment.word v
  | "wordbreak" => Segment.named? Segment.word v
  | "sb" => Segment.named? Segment.sentence v
  | "sentencebreak" => Segment.named? Segment.sentence v
  | _ => none

end CharClass

end GraphLedger.Pattern
