import GraphLedger.Pattern.Reading

/-!
# Escapes in patterns

What a backslash and the characters after it mean: a character, a class, or a condition on a place.
-/

namespace GraphLedger.Pattern

open Unicode

/-- The meaning of an escape; a character remembers whether it was written as two hexadecimal
digits. -/
inductive Escaped where
  | char (n : Nat) (byte : Bool)
  | cls (s : CharSet)
  | place (p : Place)

namespace Escaped

/-- Whether an escaped character stands for itself: ASCII, and neither a letter nor a digit. -/
def isLiteral (c : Char) : Bool :=
  c.toNat < 128 && !c.isAlphanum && c != '<' && c != '>'

/-- The character of a hexadecimal number. -/
def codePoint (digits : List Nat) : Reading Nat := do
  let n := ofDigits 16 digits
  if n < 0xD800 || (0xE000 ≤ n && n < 0x110000) then return n else throw .badCodePoint

/-- Exactly so many hexadecimal digits. -/
def hexDigits : Nat → Reading (List Nat)
  | 0 => return []
  | n + 1 => do
    match hexValue? (← Reading.peekOr .unfinishedEscape) with
    | some d =>
      Reading.advance
      return d :: (← hexDigits n)
    | none => throw .badCodePoint

/-- A code point after a letter that tells the number of its digits, unless it stands in braces. -/
def hex (digits : Nat) : Reading Escaped := do
  Reading.advance
  if (← Reading.peekOr .unfinishedEscape) = '\x7b' then
    Reading.advance
    let cs ← Reading.takeWhile fun c => (hexValue? c).isSome
    if (← Reading.peekOr .unfinishedEscape) ≠ '\x7d' then throw .badCodePoint
    Reading.advance
    if cs.isEmpty then throw .badCodePoint
    return .char (← codePoint (cs.filterMap hexValue?)) false
  else
    let ds ← hexDigits digits
    return .char (← codePoint ds) (digits == 2)

/-- The class of a property as it stands in braces: a name, or the name of a property and a value
with one of the signs `!=`, `:` and `=` between them, which all mean the same. -/
def property? (name : List Char) : Option CharSet :=
  let unequal := (List.range name.length).findSome? fun n =>
    match name.drop n with
    | '!' :: '=' :: value => some (name.take n, value)
    | _ => none
  match unequal <|> Text.splitAtFirst ':' name <|> Text.splitAtFirst '=' name with
  | some (p, v) => CharClass.ofValue? p v
  | none => CharClass.ofName? name

/-- A set with what is the same up to case if the flags want it. -/
def foldIf (f : Flags) (s : CharSet) : CharSet :=
  if f.ignoreCase then (if f.unicode then s.folded else CharClass.foldedAscii s) else s

/-- A property after `p` or, negated, after `P`. -/
def property (negated : Bool) : Reading Escaped := do
  Reading.advance
  let c ← Reading.peekOr .unfinishedEscape
  let name ←
    if c = '\x7b' then do
      Reading.advance
      let cs ← Reading.takeWhile fun c => c != '\x7d'
      let _ ← Reading.peekOr .unfinishedEscape
      Reading.bump
      pure cs
    else if c = '\\' then throw .unknownProperty
    else do
      Reading.advance
      pure [c]
  let f ← Reading.flags
  if !f.unicode then throw .notText
  match property? name with
  | some s => return .cls ((foldIf f s).negateIf negated)
  | none => throw .unknownProperty

/-- A short class, negated if its letter is a capital. -/
def shortClass (c : Char) : Reading Escaped := do
  Reading.bump
  let f ← Reading.flags
  let negated := c.isUpper
  if negated && !f.unicode then throw .notText
  let s :=
    match c.toLower with
    | 'd' => if f.unicode then CharClass.digit else CharClass.asciiDigit
    | 's' => if f.unicode then CharClass.space else CharClass.asciiSpace
    | _ => if f.unicode then CharClass.word else CharClass.asciiWord
  return .cls (s.negateIf negated)

/-- The kind of word boundary that stands in braces after `b`, if one does. -/
def specialBoundary? (ascii : Bool) : Reading (Option Place) := do
  match ← Reading.rest with
  | '\x7b' :: _ =>
    let before ← get
    Reading.advance
    let isKind (c : Char) : Bool := c.isAlpha || c == '-'
    if isKind (← Reading.peekOr .badPlace) then
      let cs ← Reading.takeWhile isKind
      if (← Reading.peekOr .badPlace) ≠ '\x7d' then throw .badPlace
      Reading.bump
      match String.ofList cs with
      | "start" => return some (.wordStart ascii)
      | "end" => return some (.wordEnd ascii)
      | "start-half" => return some (.wordStartHalf ascii)
      | "end-half" => return some (.wordEndHalf ascii)
      | _ => throw .badPlace
    else
      set before
      return none
  | _ => return none

/-- What stands for a single character after a backslash. -/
def simple (c : Char) : Reading Escaped := do
  Reading.bump
  if isLiteral c then return .char c.toNat false
  let ascii := !(← Reading.flags).unicode
  match c with
  | 'a' => return .char 7 false
  | 'f' => return .char 12 false
  | 't' => return .char 9 false
  | 'n' => return .char 10 false
  | 'r' => return .char 13 false
  | 'v' => return .char 11 false
  | 'A' => return .place .startOfText
  | 'z' => return .place .endOfText
  | 'b' => return .place ((← specialBoundary? ascii).getD (.boundary ascii))
  | 'B' => return .place (.noBoundary ascii)
  | '<' => return .place (.wordStart ascii)
  | '>' => return .place (.wordEnd ascii)
  | _ => throw .unknownEscape

/-- An escape, from its backslash on. -/
def read : Reading Escaped := do
  Reading.bump
  let c ← Reading.peekOr .unfinishedEscape
  match c with
  | 'x' => hex 2
  | 'u' => hex 4
  | 'U' => hex 8
  | 'p' => property false
  | 'P' => property true
  | _ =>
    if c.isDigit then throw .backreference
    else if ['d', 's', 'w', 'D', 'S', 'W'].contains c then shortClass c
    else simple c

end Escaped

end GraphLedger.Pattern
