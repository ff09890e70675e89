import GraphLedger.Json.Reader
import GraphLedger.Toml.Fault

/-!
# Strings of TOML

A string stands between double quotes, with escapes, or between single quotes, without any. Between
three quotes of a kind it may go over several lines; then it may hold one or two quotes in a row,
also at its end, and a line break right at its beginning does not count.
-/

namespace GraphLedger.Toml

/-- Whether a character may stand in a text: the tabulator, and what is no control character. -/
def isTextChar (c : Char) : Bool := c == '\t' || (0x20 ≤ c.toNat && c.toNat != 0x7F)

/-- Whether a character separates on a line. -/
def isSpace (c : Char) : Bool := c == ' ' || c == '\t'

/-- What follows a line break at the beginning of a text. -/
def afterNewline? : List Char → Option (List Char)
  | '\n' :: cs => some cs
  | '\r' :: '\n' :: cs => some cs
  | _ => none

/-! ### Escapes -/

/-- The character of a code in base sixteen. -/
def codePoint? (ds : List Char) : Option Char := do
  let vs ← ds.mapM Json.hexValue?
  let n := vs.foldl (fun n d => n * 16 + d) 0
  if n.isValidChar then some (Char.ofNat n) else none

/-- Reads the given number of digits of a code. -/
def readCode (count : Nat) (s : List Char) : Except Fault (Char × List Char) :=
  if s.length < count then .error .badEscape
  else
    match codePoint? (s.take count) with
    | some c => .ok (c, s.drop count)
    | none => .error .badEscape

/-- Reads what follows a backslash. -/
def readEscape : List Char → Except Fault (Char × List Char)
  | 'b' :: cs => .ok (Char.ofNat 8, cs)
  | 't' :: cs => .ok ('\t', cs)
  | 'n' :: cs => .ok ('\n', cs)
  | 'f' :: cs => .ok (Char.ofNat 12, cs)
  | 'r' :: cs => .ok ('\r', cs)
  | '"' :: cs => .ok ('"', cs)
  | '\\' :: cs => .ok ('\\', cs)
  | 'u' :: cs => readCode 4 cs
  | 'U' :: cs => readCode 8 cs
  | _ => .error .badEscape

/-- What follows blanks and line breaks. -/
def skipLines : Nat → List Char → List Char
  | 0, cs => cs
  | fuel + 1, cs =>
    match afterNewline? cs with
    | some rest => skipLines fuel rest
    | none =>
      match cs with
      | c :: rest => if isSpace c then skipLines fuel rest else cs
      | [] => []

/-- What follows after a backslash that ends a line: the next character that is not blank. -/
def afterLineEnd? (s : List Char) : Option (List Char) :=
  (afterNewline? (s.dropWhile isSpace)).map fun rest => skipLines rest.length rest

/-! ### Strings -/

/-- Reads the rest of a string on one line, the characters so far in reverse. The fuel is the length
of the text. -/
def readShort (quote : Char) : Nat → List Char → List Char → Except Fault (String × List Char)
  | 0, _, _ => .error .endOfText
  | fuel + 1, acc, s =>
    match s with
    | [] => .error .endOfText
    | c :: cs =>
      if c == quote then .ok (String.ofList acc.reverse, cs)
      else if c == '\\' && quote == '"' then do
        let (c, cs) ← readEscape cs
        readShort quote fuel (c :: acc) cs
      else if isTextChar c then readShort quote fuel (c :: acc) cs
      else .error (.unexpected c)

/-- Reads the rest of a string of several lines, the characters so far in reverse. Of three quotes
or more the last three end it. The fuel is the length of the text. -/
def readLong (quote : Char) : Nat → List Char → List Char → Except Fault (String × List Char)
  | 0, _, _ => .error .endOfText
  | fuel + 1, acc, s =>
    match s with
    | [] => .error .endOfText
    | c :: cs =>
      if c == quote then
        let n := (s.takeWhile (· == quote)).length
        if n < 3 then readLong quote fuel (List.replicate n quote ++ acc) (s.drop n)
        else
          let n := min n 5
          .ok (String.ofList (acc.reverse ++ List.replicate (n - 3) quote), s.drop n)
      else if c == '\\' && quote == '"' then
        match afterLineEnd? cs with
        | some rest => readLong quote fuel acc rest
        | none => do
          let (c, cs) ← readEscape cs
          readLong quote fuel (c :: acc) cs
      else
        match afterNewline? s with
        | some rest => readLong quote fuel ('\n' :: acc) rest
        | none =>
          if isTextChar c then readLong quote fuel (c :: acc) cs else .error (.unexpected c)

/-- Reads a string on one line after its quote. -/
def readLine (quote : Char) (s : List Char) : Except Fault (String × List Char) :=
  readShort quote (s.length + 1) [] s

/-- Reads a string after its first quote. -/
def readString (quote : Char) (s : List Char) : Except Fault (String × List Char) :=
  match s with
  | a :: b :: cs =>
    if a == quote && b == quote then
      let cs := (afterNewline? cs).getD cs
      readLong quote (cs.length + 1) [] cs
    else readLine quote s
  | s => readLine quote s

end GraphLedger.Toml
