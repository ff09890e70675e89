import GraphLedger.Json.Reader
import GraphLedger.Number.Double
import GraphLedger.Time.Instant
import GraphLedger.Toml.Fault

/-!
# Numbers, truth values and times of TOML

A scalar that is not quoted is a word. It is a truth value, a whole number in base ten, sixteen,
eight or two, a floating point number, or a time. Single underscores may stand between digits. JSON
has neither times nor infinite numbers; such a word is read as an object that names it, which no
field of a configuration takes.
-/

namespace GraphLedger.Toml

/-- Whether a character may stand in a word. -/
def isWordChar (c : Char) : Bool :=
  c.isAlphanum || c == '+' || c == '-' || c == '_' || c == '.' || c == ':'

/-! ### Digits -/

/-- Takes digits, before each of which but the first a single underscore may stand. -/
def moreDigits (isDigit : Char → Bool) : List Char → List Char × List Char
  | [] => ([], [])
  | [c] => if isDigit c then ([c], []) else ([], [c])
  | c :: d :: cs =>
    if isDigit c then
      let (ds, rest) := moreDigits isDigit (d :: cs)
      (c :: ds, rest)
    else if c == '_' && isDigit d then moreDigits isDigit (d :: cs)
    else ([], c :: d :: cs)

/-- Takes digits, of which there must be one, and which begin with one. -/
def readDigits (isDigit : Char → Bool) (s : List Char) : Option (List Char × List Char) :=
  match s with
  | c :: _ => if isDigit c then some (moreDigits isDigit s) else none
  | [] => none

/-- Takes the digits of a whole number: zero alone, or digits that do not begin with zero. -/
def readWhole : List Char → Option (List Char × List Char)
  | '0' :: cs => some (['0'], cs)
  | cs => readDigits Char.isDigit cs

/-- The number that digits write in a base. -/
def digitsValue (base : Nat) (ds : List Char) : Nat :=
  ds.foldl (fun n c => n * base + ((Json.hexValue? c).getD 0)) 0

/-- Whether a character is a digit in a base. -/
def isDigitIn (base : Nat) (c : Char) : Bool :=
  match Json.hexValue? c with
  | some d => d < base
  | none => false

/-- The sign at the beginning of a word, whether it is a minus, and what follows it. -/
def splitSign : List Char → Bool × List Char
  | '-' :: cs => (true, cs)
  | '+' :: cs => (false, cs)
  | cs => (false, cs)

/-! ### Whole numbers -/

/-- A whole number, if it is one of 64 bits. -/
def inRange (n : Int) : Option Int :=
  if -0x8000000000000000 ≤ n && n < 0x8000000000000000 then some n else none

/-- The whole number in a base that is not ten. -/
def basedInt? (base : Nat) (cs : List Char) : Option Int :=
  match readDigits (isDigitIn base) cs with
  | some (ds, []) => inRange (digitsValue base ds)
  | _ => none

/-- The whole number in base ten. -/
def decimalInt? (word : List Char) : Option Int :=
  let (negative, cs) := splitSign word
  match readWhole cs with
  | some (ds, []) =>
    let n : Int := digitsValue 10 ds
    inRange (if negative then -n else n)
  | _ => none

/-- The whole number that a word writes. -/
def int? : List Char → Option Int
  | '0' :: 'x' :: cs => basedInt? 16 cs
  | '0' :: 'o' :: cs => basedInt? 8 cs
  | '0' :: 'b' :: cs => basedInt? 2 cs
  | word => decimalInt? word

/-! ### Floating point numbers -/

/-- A value that JSON does not have. -/
def named (kind : String) (word : List Char) : Json :=
  .object [(kind, .string (String.ofList word))]

/-- The exponent after its letter, which must end the word. -/
def exponent? (cs : List Char) : Option Int :=
  let (negative, cs) := splitSign cs
  match readDigits Char.isDigit cs with
  | some (ds, []) =>
    let n : Int := digitsValue 10 ds
    some (if negative then -n else n)
  | _ => none

/-- The exponent at the end of a word, zero if there is none. -/
def exponentPart? : List Char → Option Int
  | [] => some 0
  | c :: cs => if c == 'e' || c == 'E' then exponent? cs else none

/-- The significand and the exponent that a word without a sign writes; it has a fraction or an
exponent. -/
def decimal? (cs : List Char) : Option (Nat × Int) := do
  let (whole, rest) ← readWhole cs
  match rest with
  | '.' :: rest =>
    let (fraction, rest) ← readDigits Char.isDigit rest
    let e ← exponentPart? rest
    some (digitsValue 10 (whole ++ fraction), e - fraction.length)
  | [] => none
  | rest =>
    let e ← exponentPart? rest
    some (digitsValue 10 whole, e)

/-- The floating point number that a word writes; one that is too great is none, but one that is too
small is infinite. -/
def float? (word : List Char) : Option Json :=
  let (negative, cs) := splitSign word
  if cs == ['i', 'n', 'f'] || cs == ['n', 'a', 'n'] then some (named "number" word)
  else
    match decimal? cs with
    | none => none
    | some (sig, e) =>
      match Double.nearestDecimal? negative sig cs.length e with
      | some x => some (.float x)
      | none => if negative then some (named "number" word) else none

/-! ### Times -/

/-- Takes a number of a given count of digits. -/
def readFixed (count : Nat) (s : List Char) : Option (Nat × List Char) :=
  let ds := s.take count
  if ds.length == count && ds.all Char.isDigit then some (digitsValue 10 ds, s.drop count) else none

/-- Takes a character. -/
def readChar (c : Char) : List Char → Option (List Char)
  | d :: cs => if c == d then some cs else none
  | [] => none

/-- Takes a day of the calendar. -/
def readDate (s : List Char) : Option (List Char) := do
  let (year, s) ← readFixed 4 s
  let s ← readChar '-' s
  let (month, s) ← readFixed 2 s
  let s ← readChar '-' s
  let (day, s) ← readFixed 2 s
  if 1 ≤ month && month ≤ 12 && 1 ≤ day && day ≤ Instant.daysInMonth year month then some s
  else none

/-- Takes the hours and minutes of a time of day or of an offset. -/
def readHourMinute (s : List Char) : Option (List Char) := do
  let (hour, s) ← readFixed 2 s
  let s ← readChar ':' s
  let (minute, s) ← readFixed 2 s
  if hour ≤ 23 && minute ≤ 59 then some s else none

/-- Takes a time of day. -/
def readTime (s : List Char) : Option (List Char) := do
  let s ← readHourMinute s
  let s ← readChar ':' s
  let (second, s) ← readFixed 2 s
  if 60 < second then none
  else
    match s with
    | '.' :: c :: cs => if c.isDigit then some (cs.dropWhile Char.isDigit) else none
    | s => some s

/-- Whether a text is a distance from universal time, or empty. -/
def isOffset : List Char → Bool
  | [] => true
  | ['Z'] => true
  | ['z'] => true
  | c :: cs => (c == '+' || c == '-') && readHourMinute cs == some []

/-- Whether a text is a time of day, with or without a distance from universal time. -/
def isOffsetTime (s : List Char) : Bool := (readTime s).any isOffset

/-- Whether a word is a time: a day, a time of day, or both. -/
def isTime (word : List Char) : Bool :=
  match readDate word with
  | some [] => true
  | some (c :: cs) => (c == 'T' || c == 't') && isOffsetTime cs
  | none => readTime word == some []

/-! ### Words -/

/-- The value of a word. -/
def ofWord? (word : List Char) : Option Json :=
  if word == ['t', 'r', 'u', 'e'] then some (.bool true)
  else if word == ['f', 'a', 'l', 's', 'e'] then some (.bool false)
  else if isTime word then some (named "time" word)
  else
    match int? word with
    | some n => some (.int n)
    | none => float? word

/-- Takes a word; after a day, one space may stand in place of the letter that the time of day
begins with. -/
def readWord (s : List Char) : List Char × List Char :=
  let word := s.takeWhile isWordChar
  let rest := s.drop word.length
  if readDate word == some [] then
    match rest with
    | ' ' :: c :: cs =>
      if c.isDigit then
        let time := (c :: cs).takeWhile isWordChar
        (word ++ 'T' :: time, (c :: cs).drop time.length)
      else (word, rest)
    | rest => (word, rest)
  else (word, rest)

/-- Reads a scalar that is not quoted. -/
def readScalar (s : List Char) : Except Fault (Json × List Char) :=
  let (word, rest) := readWord s
  if word.isEmpty then .error (.at s)
  else
    match ofWord? word with
    | some v => .ok (v, rest)
    | none => .error (.badScalar (String.ofList word))

end GraphLedger.Toml
