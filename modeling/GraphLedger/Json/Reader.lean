import GraphLedger.Json.Basic

/-!
# Reading JSON

The reader takes a text to the value it writes, keeping the fields of an object in the order of the
text, repeated keys included; `read` gives the canonical form of that. Arrays and objects may be
nested up to a depth, and a number must be in the range of floating point. Whole numbers between
`-2 ^ 63` and `2 ^ 64` are kept as such, except that `-0` is a floating point zero.
-/

namespace GraphLedger.Json

/-- What is wrong with a text that is no JSON. -/
inductive ReadError where
  | endOfText
  | unexpected (c : Char)
  | badNumber
  | numberOutOfRange
  | badEscape
  | controlCharacter
  | tooDeep
  | trailing
  deriving DecidableEq, Repr

/-- The wording of a fault. -/
def ReadError.message : ReadError → String
  | .endOfText => "the text ends inside a value"
  | .unexpected c => "unexpected character " ++ String.ofList [c]
  | .badNumber => "a number is malformed"
  | .numberOutOfRange => "a number is out of range"
  | .badEscape => "an escape is malformed"
  | .controlCharacter => "a string holds a control character"
  | .tooDeep => "values are nested too deeply"
  | .trailing => "text follows the value"

/-- Arrays and objects are entered while this is not used up. -/
def maxDepth : Nat := 128

/-- Whether a character may stand between the tokens. -/
def isSpace (c : Char) : Bool := c == ' ' || c == '\n' || c == '\t' || c == '\r'

/-- The text without the blanks at its start. -/
def skipSpace (s : List Char) : List Char := s.dropWhile isSpace

/-- The value of a decimal digit. -/
def digit? (c : Char) : Option Nat :=
  if '0' ≤ c && c ≤ '9' then some (c.toNat - 48) else none

/-! ### Numbers -/

/-- The greatest whole number that is kept as such. -/
def maxWhole : Nat := 0xFFFFFFFFFFFFFFFF

/-- Reads digits into a significand until the next would make it too great, and says how many it
took. -/
def takeDigits (sig taken : Nat) : List Char → Nat × Nat × List Char
  | [] => (sig, taken, [])
  | c :: cs =>
    match digit? c with
    | none => (sig, taken, c :: cs)
    | some d =>
      if maxWhole < sig * 10 + d then (sig, taken, c :: cs)
      else takeDigits (sig * 10 + d) (taken + 1) cs

/-- Skips digits, and says how many there were. -/
def skipDigits (skipped : Nat) : List Char → Nat × List Char
  | [] => (skipped, [])
  | c :: cs => if (digit? c).isSome then skipDigits (skipped + 1) cs else (skipped, c :: cs)

/-- A number with its sign, if it is in range. -/
def signed (negative : Bool) (sig : Nat) (exponent : Int) (rest : List Char) :
    Except ReadError (Json × List Char) :=
  match Double.ofDecimal? sig exponent with
  | some x => .ok (.float (if negative then x.neg else x), rest)
  | none => .error .numberOutOfRange

/-- Reads what follows the letter of an exponent. -/
def readExponent (negative : Bool) (sig : Nat) (exponent : Int) (s : List Char) :
    Except ReadError (Json × List Char) :=
  let (down, s) := match s with
    | '+' :: cs => (false, cs)
    | '-' :: cs => (true, cs)
    | cs => (false, cs)
  match s with
  | [] => .error .endOfText
  | c :: _ =>
    if (digit? c).isNone then .error .badNumber
    else
      let ds := s.takeWhile fun c => (digit? c).isSome
      let e : Int := ds.foldl (fun n c => n * 10 + (c.toNat - 48)) 0
      signed negative sig (if down then exponent - e else exponent + e) (s.drop ds.length)

/-- Reads what follows the digits of a number: an exponent, or nothing. -/
def readEnd (negative : Bool) (sig : Nat) (exponent : Int) :
    List Char → Except ReadError (Json × List Char)
  | 'e' :: cs => readExponent negative sig exponent cs
  | 'E' :: cs => readExponent negative sig exponent cs
  | cs => signed negative sig exponent cs

/-- Reads what follows the point of a number. -/
def readFraction (negative : Bool) (sig : Nat) (exponent : Int) (s : List Char) :
    Except ReadError (Json × List Char) :=
  let (sig, taken, rest) := takeDigits sig 0 s
  let (skipped, rest) := skipDigits 0 rest
  if taken + skipped == 0 then
    match rest with
    | [] => .error .endOfText
    | _ => .error .badNumber
  else readEnd negative sig (exponent - taken) rest

/-- A whole number with its sign; below the range, and for minus zero, a floating point number. -/
def whole (negative : Bool) (sig : Nat) (rest : List Char) : Except ReadError (Json × List Char) :=
  if !negative then .ok (.int sig, rest)
  else if sig != 0 && sig ≤ 0x8000000000000000 then .ok (.int (-(sig : Int)), rest)
  else signed true sig 0 rest

/-- Reads a number after its sign. -/
def readNumber (negative : Bool) (s : List Char) : Except ReadError (Json × List Char) :=
  match s with
  | [] => .error .endOfText
  | c :: cs =>
    if (digit? c).isNone then .error .badNumber
    else if c == '0' && (match cs with | d :: _ => (digit? d).isSome | [] => false) then
      .error .badNumber
    else
      let (sig, _, rest) := takeDigits 0 0 s
      let (skipped, rest) := skipDigits 0 rest
      match rest with
      | '.' :: cs => readFraction negative sig skipped cs
      | 'e' :: cs => readExponent negative sig skipped cs
      | 'E' :: cs => readExponent negative sig skipped cs
      | cs => if skipped == 0 then whole negative sig cs else signed negative sig skipped cs

/-! ### Strings -/

/-- The value of a digit in base sixteen. -/
def hexValue? (c : Char) : Option Nat :=
  if '0' ≤ c && c ≤ '9' then some (c.toNat - 48)
  else if 'a' ≤ c && c ≤ 'f' then some (c.toNat - 87)
  else if 'A' ≤ c && c ≤ 'F' then some (c.toNat - 55)
  else none

/-- The code unit that four digits write. -/
def readUnit : List Char → Except ReadError (Nat × List Char)
  | a :: b :: c :: d :: rest =>
    match hexValue? a, hexValue? b, hexValue? c, hexValue? d with
    | some a, some b, some c, some d => .ok (a * 4096 + b * 256 + c * 16 + d, rest)
    | _, _, _, _ => .error .badEscape
  | _ => .error .endOfText

/-- The character that one or two code units write; a surrogate must be one of a pair. -/
def readCodePoint (s : List Char) : Except ReadError (Char × List Char) := do
  let (n, rest) ← readUnit s
  if 0xDC00 ≤ n && n ≤ 0xDFFF then .error .badEscape
  else if n < 0xD800 || 0xDBFF < n then .ok (Char.ofNat n, rest)
  else
    match rest with
    | '\\' :: 'u' :: rest =>
      let (m, rest) ← readUnit rest
      if m < 0xDC00 || 0xDFFF < m then .error .badEscape
      else .ok (Char.ofNat ((n - 0xD800) * 1024 + (m - 0xDC00) + 0x10000), rest)
    | _ => .error .badEscape

/-- Reads what follows a backslash. -/
def readEscape : List Char → Except ReadError (Char × List Char)
  | [] => .error .endOfText
  | '"' :: cs => .ok ('"', cs)
  | '\\' :: cs => .ok ('\\', cs)
  | '/' :: cs => .ok ('/', cs)
  | 'b' :: cs => .ok (Char.ofNat 8, cs)
  | 'f' :: cs => .ok (Char.ofNat 12, cs)
  | 'n' :: cs => .ok ('\n', cs)
  | 'r' :: cs => .ok ('\r', cs)
  | 't' :: cs => .ok ('\t', cs)
  | 'u' :: cs => readCodePoint cs
  | _ => .error .badEscape

/-- Reads the rest of a string, the characters so far in reverse. The fuel is the length of the
text. -/
def readChars : Nat → List Char → List Char → Except ReadError (String × List Char)
  | 0, _, _ => .error .endOfText
  | fuel + 1, acc, s =>
    match s with
    | [] => .error .endOfText
    | '"' :: cs => .ok (String.ofList acc.reverse, cs)
    | '\\' :: cs => do
      let (c, cs) ← readEscape cs
      readChars fuel (c :: acc) cs
    | c :: cs =>
      if c.toNat < 0x20 then .error .controlCharacter else readChars fuel (c :: acc) cs

/-- Reads a string after its opening quote. -/
def readString (s : List Char) :
    Except ReadError (String × List Char) := readChars (s.length + 1) [] s

/-! ### Values -/

/-- Reads a word that must stand next. -/
def readWord (word : List Char) (v : Json) (s : List Char) : Except ReadError (Json × List Char) :=
  if s.take word.length = word then .ok (v, s.drop word.length)
  else if s.length < word.length then .error .endOfText
  else .error (.unexpected (s.headD ' '))

mutual

/-- Reads a value. Each call has less fuel than the one it comes from, and each second one has taken
a character, so twice the length of the text is enough. -/
def readValue : Nat → Nat → List Char → Except ReadError (Json × List Char)
  | 0, _, _ => .error .endOfText
  | fuel + 1, depth, s =>
    match skipSpace s with
    | [] => .error .endOfText
    | 'n' :: cs => readWord ['u', 'l', 'l'] .null cs
    | 't' :: cs => readWord ['r', 'u', 'e'] (.bool true) cs
    | 'f' :: cs => readWord ['a', 'l', 's', 'e'] (.bool false) cs
    | '"' :: cs => do
      let (t, rest) ← readString cs
      .ok (.string t, rest)
    | '-' :: cs => readNumber true cs
    | '[' :: cs =>
      match depth with
      | depth + 2 =>
        match skipSpace cs with
        | ']' :: rest => .ok (.array [], rest)
        | cs => do
          let (items, rest) ← readItems fuel (depth + 1) cs
          .ok (.array items, rest)
      | _ => .error .tooDeep
    | '\x7b' :: cs =>
      match depth with
      | depth + 2 =>
        match skipSpace cs with
        | '\x7d' :: rest => .ok (.object [], rest)
        | cs => do
          let (fs, rest) ← readFields fuel (depth + 1) cs
          .ok (.object fs, rest)
      | _ => .error .tooDeep
    | c :: cs => if (digit? c).isSome then readNumber false (c :: cs) else .error (.unexpected c)

/-- Reads the items of an array up to its end. -/
def readItems : Nat → Nat → List Char → Except ReadError (List Json × List Char)
  | 0, _, _ => .error .endOfText
  | fuel + 1, depth, s => do
    let (v, rest) ← readValue fuel depth s
    match skipSpace rest with
    | ',' :: rest =>
      let (vs, rest) ← readItems fuel depth rest
      .ok (v :: vs, rest)
    | ']' :: rest => .ok ([v], rest)
    | [] => .error .endOfText
    | c :: _ => .error (.unexpected c)

/-- Reads the fields of an object up to its end. -/
def readFields : Nat → Nat → List Char → Except ReadError (List (String × Json) × List Char)
  | 0, _, _ => .error .endOfText
  | fuel + 1, depth, s =>
    match skipSpace s with
    | '"' :: cs => do
      let (k, rest) ← readString cs
      match skipSpace rest with
      | ':' :: rest =>
        let (v, rest) ← readValue fuel depth rest
        match skipSpace rest with
        | ',' :: rest =>
          let (fs, rest) ← readFields fuel depth rest
          .ok ((k, v) :: fs, rest)
        | '\x7d' :: rest => .ok ([(k, v)], rest)
        | [] => .error .endOfText
        | c :: _ => .error (.unexpected c)
      | [] => .error .endOfText
      | c :: _ => .error (.unexpected c)
    | [] => .error .endOfText
    | c :: _ => .error (.unexpected c)

end

/-- Reads a whole text, the fields of objects as they are written. -/
def readAsWritten (text : String) : Except ReadError Json := do
  let s := text.toList
  let (v, rest) ← readValue (2 * s.length + 2) maxDepth s
  if (skipSpace rest).isEmpty then .ok v else .error .trailing

/-- Reads a whole text into the canonical form of the value it writes. -/
def read (text : String) : Except ReadError Json := (readAsWritten text).map canonical

end GraphLedger.Json
