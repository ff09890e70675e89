import GraphLedger.Text.Blank
import GraphLedger.Toml.Quoted
import GraphLedger.Toml.Scalar
import GraphLedger.Toml.Table

/-!
# Reading TOML

A document is a sequence of lines: a key with its value, the header of a table, or nothing, each
perhaps with a comment. Arrays may go over several lines, inline tables may not. Keys are dotted,
their parts bare or quoted.
-/

namespace GraphLedger.Toml

/-- Arrays and inline tables are entered while this is not used up. -/
def maxDepth : Nat := 79

/-- A dotted key has at most this many parts. -/
def maxParts : Nat := 79

/-- The text without the blanks at its start. -/
def skipSpace (s : List Char) : List Char := s.dropWhile isSpace

/-- What follows a comment. -/
def skipComment : List Char → List Char
  | '#' :: cs => cs.dropWhile isTextChar
  | cs => cs

/-- Reads the end of a line, perhaps with a comment, or of the text. -/
def readLineEnd (s : List Char) : Except Fault (List Char) :=
  match skipComment (skipSpace s) with
  | [] => .ok []
  | cs =>
    match afterNewline? cs with
    | some rest => .ok rest
    | none => .error (.at cs)

/-- The text without blanks, line breaks and comments at its start, as they may stand inside an
array. -/
def skipFiller : Nat → List Char → List Char
  | 0, s => s
  | fuel + 1, s =>
    match skipSpace s with
    | '#' :: cs => skipFiller fuel (cs.dropWhile isTextChar)
    | cs =>
      match afterNewline? cs with
      | some rest => skipFiller fuel rest
      | none => cs

/-- Reads a character that must stand next. -/
def expect (c : Char) : List Char → Except Fault (List Char)
  | d :: cs => if c == d then .ok cs else .error (.unexpected d)
  | [] => .error .endOfText

/-! ### Keys -/

/-- Whether a character may stand in a bare key. -/
def isKeyChar (c : Char) : Bool := c.isAlphanum || c == '-' || c == '_'

/-- Reads a part of a key. -/
def readPart (s : List Char) : Except Fault (String × List Char) :=
  match s with
  | '"' :: cs => readLine '"' cs
  | '\'' :: cs => readLine '\'' cs
  | cs =>
    let word := cs.takeWhile isKeyChar
    if word.isEmpty then .error (.at cs) else .ok (String.ofList word, cs.drop word.length)

/-- Reads the parts of a key, with blanks around them. The fuel is the length of the text. -/
def readParts : Nat → List Char → Except Fault (List String × List Char)
  | 0, _ => .error .endOfText
  | fuel + 1, s => do
    let (part, rest) ← readPart (skipSpace s)
    match skipSpace rest with
    | '.' :: rest =>
      let (parts, rest) ← readParts fuel rest
      return (part :: parts, rest)
    | rest => return ([part], rest)

/-- Reads a key: the parts on its way, and the last one. -/
def readKey (s : List Char) : Except Fault ((List String × String) × List Char) := do
  let (parts, rest) ← readParts (s.length + 1) s
  if maxParts < parts.length then throw .tooDeep
  return ((parts.dropLast, parts.getLastD ""), rest)

/-! ### Values -/

mutual

/-- Reads a value. Each call has less fuel than the one it comes from, and each second one has taken
a character, so twice the length of the text is enough. -/
def readValue : Nat → Nat → List Char → Except Fault (Json × List Char)
  | 0, _, _ => .error .endOfText
  | fuel + 1, depth, s =>
    match s with
    | '"' :: cs => (readString '"' cs).map fun (t, rest) => (.string t, rest)
    | '\'' :: cs => (readString '\'' cs).map fun (t, rest) => (.string t, rest)
    | '[' :: cs =>
      match depth with
      | 0 => .error .tooDeep
      | depth + 1 => (readItems fuel depth cs).map fun (vs, rest) => (.array vs, rest)
    | '\x7b' :: cs =>
      match depth with
      | 0 => .error .tooDeep
      | depth + 1 =>
        match skipSpace cs with
        | '\x7d' :: rest => .ok (.object [], rest)
        | cs => (readPairs fuel depth [] cs).map fun (es, rest) =>
          (.object (entriesToJson es), rest)
    | cs => readScalar cs

/-- Reads the items of an array up to its end; a comma may follow the last one. -/
def readItems : Nat → Nat → List Char → Except Fault (List Json × List Char)
  | 0, _, _ => .error .endOfText
  | fuel + 1, depth, s =>
    match skipFiller (s.length + 1) s with
    | ']' :: rest => .ok ([], rest)
    | cs => do
      let (v, rest) ← readValue fuel depth cs
      match skipFiller (rest.length + 1) rest with
      | ',' :: rest => do
        let (vs, rest) ← readItems fuel depth rest
        return (v :: vs, rest)
      | ']' :: rest => return ([v], rest)
      | rest => throw (.at rest)

/-- Reads the pairs of an inline table up to its end, given the entries so far. -/
def readPairs : Nat → Nat → Entries → List Char → Except Fault (Entries × List Char)
  | 0, _, _, _ => .error .endOfText
  | fuel + 1, depth, es, s => do
    let ((path, key), rest) ← readKey s
    let rest ← expect '=' rest
    let (v, rest) ← readValue fuel depth (skipSpace rest)
    let es ← es.define path key v
    match skipSpace rest with
    | ',' :: rest => readPairs fuel depth es rest
    | '\x7d' :: rest => return (es, rest)
    | rest => throw (.at rest)

end

/-! ### Documents -/

/-- A document as read so far: the header under which keys stand, and the root table. -/
structure Document where
  current : List String
  root : Entries

namespace Document

/-- The document of which nothing is read yet. -/
def empty : Document := ⟨[], []⟩

/-- Gives a key its value under the current header. -/
def define (d : Document) (path : List String) (key : String) (v : Json) :
    Except Fault Document := do
  let root ← Entries.within false d.current (fun _ es => es.define path key v) .header d.root
  return { d with root := root }

/-- Opens the table of a header. -/
def openTable (d : Document) (path : List String) (key : String) : Except Fault Document := do
  return ⟨path ++ [key], ← d.root.openTable path key⟩

/-- Opens one more table in the list of a header. -/
def openNext (d : Document) (path : List String) (key : String) : Except Fault Document := do
  return ⟨path ++ [key], ← d.root.openNext path key⟩

end Document

/-- Reads what stands on a line. -/
def readExpression (d : Document) (s : List Char) : Except Fault (Document × List Char) :=
  match s with
  | '[' :: '[' :: cs => do
    let ((path, key), rest) ← readKey cs
    let rest ← expect ']' (← expect ']' rest)
    return (← d.openNext path key, rest)
  | '[' :: cs => do
    let ((path, key), rest) ← readKey cs
    let rest ← expect ']' rest
    return (← d.openTable path key, rest)
  | cs => do
    let ((path, key), rest) ← readKey cs
    let rest := skipSpace (← expect '=' rest)
    let (v, rest) ← readValue (2 * rest.length + 2) maxDepth rest
    return (← d.define path key v, rest)

/-- Reads the lines of a document. The fuel is the length of the text. -/
def readDocument : Nat → Document → List Char → Except Fault Document
  | 0, _, _ => .error .endOfText
  | fuel + 1, d, s =>
    match skipFiller (s.length + 1) s with
    | [] => .ok d
    | cs => do
      let (d, rest) ← readExpression d cs
      readDocument fuel d (← readLineEnd rest)

/-- The mark that may stand at the beginning of a document. -/
def byteOrderMark : Char := '\ufeff'

/-- Reads a whole document to the object of its root table. -/
def read (text : String) : Except Fault Json := do
  let s := text.toList
  let s := (Text.afterStart? [byteOrderMark] s).getD s
  let d ← readDocument (s.length + 1) .empty s
  return .object (entriesToJson d.root)

end GraphLedger.Toml
