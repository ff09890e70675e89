import GraphLedger.Json.Decode
import GraphLedger.Json.Reader

/-!
# Reading by an outline

A typed value is read from a text by an outline of it, which tells the fields it has. Only those are
read. What another field holds is passed over: it must have the form of JSON, but it may be nested
to any depth, and its numbers and escapes need not stand for anything.
-/

namespace GraphLedger.Json

/-! ### Passing over -/

/-- What follows digits, of which there must be one. -/
def passDigits (s : List Char) : Except ReadError (List Char) :=
  match s with
  | [] => .error .endOfText
  | c :: _ =>
    if (digit? c).isNone then .error .badNumber
    else .ok (s.dropWhile fun c => (digit? c).isSome)

/-- What follows the exponent of a number, if it has one. -/
def passExponent : List Char → Except ReadError (List Char)
  | c :: cs =>
    if c == 'e' || c == 'E' then
      match cs with
      | '+' :: ds => passDigits ds
      | '-' :: ds => passDigits ds
      | ds => passDigits ds
    else .ok (c :: cs)
  | [] => .ok []

/-- What follows the fraction and the exponent of a number, if it has them. -/
def passFraction : List Char → Except ReadError (List Char)
  | '.' :: cs => do passExponent (← passDigits cs)
  | cs => passExponent cs

/-- What follows a number, given what follows its sign. -/
def passNumber : List Char → Except ReadError (List Char)
  | '0' :: c :: cs =>
    if (digit? c).isSome then .error .badNumber else passFraction (c :: cs)
  | cs => do passFraction (← passDigits cs)

/-- What follows a string, given what follows its opening quote. -/
def passString : List Char → Except ReadError (List Char)
  | [] => .error .endOfText
  | '"' :: cs => .ok cs
  | '\\' :: 'u' :: a :: b :: c :: d :: cs =>
    if [a, b, c, d].all fun x => (hexValue? x).isSome then passString cs else .error .badEscape
  | '\\' :: c :: cs =>
    if ['"', '\\', '/', 'b', 'f', 'n', 'r', 't'].contains c then passString cs
    else .error .badEscape
  | c :: cs =>
    if c == '\\' then .error .badEscape
    else if c.toNat < 0x20 then .error .controlCharacter
    else passString cs

mutual

/-- What follows a value. The fuel is that of reading one. -/
def passValue : Nat → List Char → Except ReadError (List Char)
  | 0, _ => .error .endOfText
  | fuel + 1, s =>
    match skipSpace s with
    | '"' :: cs => passString cs
    | '-' :: cs => passNumber cs
    | '[' :: cs =>
      match skipSpace cs with
      | ']' :: rest => .ok rest
      | cs => passItems fuel cs
    | '\x7b' :: cs =>
      match skipSpace cs with
      | '\x7d' :: rest => .ok rest
      | cs => passFields fuel cs
    | [] => .error .endOfText
    | c :: cs =>
      if (digit? c).isSome then passNumber (c :: cs)
      else (readValue 1 0 (c :: cs)).map Prod.snd

/-- What follows the items of an array and its end. -/
def passItems : Nat → List Char → Except ReadError (List Char)
  | 0, _ => .error .endOfText
  | fuel + 1, s => do
    match skipSpace (← passValue fuel s) with
    | ',' :: rest => passItems fuel rest
    | ']' :: rest => .ok rest
    | [] => .error .endOfText
    | c :: _ => .error (.unexpected c)

/-- What follows the fields of an object and its end. -/
def passFields : Nat → List Char → Except ReadError (List Char)
  | 0, _ => .error .endOfText
  | fuel + 1, s =>
    match skipSpace s with
    | '"' :: cs => do
      match skipSpace (← passString cs) with
      | ':' :: rest =>
        match skipSpace (← passValue fuel rest) with
        | ',' :: rest => passFields fuel rest
        | '\x7d' :: rest => .ok rest
        | [] => .error .endOfText
        | c :: _ => .error (.unexpected c)
      | [] => .error .endOfText
      | c :: _ => .error (.unexpected c)
    | [] => .error .endOfText
    | c :: _ => .error (.unexpected c)

end

/-! ### Outlines -/

/-- How much of a value is wanted: all of it, fields with certain names, or a list of which each
item has an outline. -/
inductive Outline where
  | whole
  | fields (known : List (List String × Outline))
  | items (each : Outline)
  deriving Inhabited

namespace Outline

/-- The outline of a layout whose fields are wanted whole. -/
def ofLayout (layout : Layout) : Outline := .fields (layout.map fun names => (names, .whole))

/-- The outline with another outline for the field of a name. -/
def refine (o : Outline) (name : String) (inner : Outline) : Outline :=
  match o with
  | .fields known =>
    .fields (known.map fun f => if f.1.contains name then (f.1, inner) else f)
  | o => o

/-- The outline of the field of a name, if it is wanted. -/
def field? (known : List (List String × Outline)) (name : String) : Option Outline :=
  (known.find? fun f => f.1.contains name).map Prod.snd

end Outline

mutual

/-- Reads what is wanted of a value. The fuel is that of reading all of it. -/
def readOutlined : Nat → Nat → Outline → List Char → Except ReadError (Json × List Char)
  | 0, _, _, _ => .error .endOfText
  | fuel + 1, depth, o, s =>
    match o, depth, skipSpace s with
    | .fields known, depth + 2, '[' :: cs =>
      (readListed fuel (depth + 1) (known.map Prod.snd) .whole cs).map fun (vs, rest) =>
        (.array vs, rest)
    | .fields known, depth + 2, '\x7b' :: cs =>
      match skipSpace cs with
      | '\x7d' :: rest => .ok (.object [], rest)
      | cs => (readKnown fuel (depth + 1) known cs).map fun (fs, rest) => (.object fs, rest)
    | .items each, depth + 2, '[' :: cs =>
      (readListed fuel (depth + 1) [] each cs).map fun (vs, rest) => (.array vs, rest)
    | _, depth, cs => readValue (2 * cs.length + 2) depth cs

/-- Reads items up to the end of an array, the first ones by outlines of their own. -/
def readListed : Nat → Nat → List Outline → Outline → List Char →
    Except ReadError (List Json × List Char)
  | 0, _, _, _, _ => .error .endOfText
  | fuel + 1, depth, first, others, s =>
    match skipSpace s with
    | ']' :: rest => .ok ([], rest)
    | cs => do
      let (v, rest) ← readOutlined fuel depth (first.headD others) cs
      match skipSpace rest with
      | ',' :: rest =>
        match skipSpace rest with
        | ']' :: _ => .error (.unexpected ']')
        | rest => do
          let (vs, rest) ← readListed fuel depth (first.drop 1) others rest
          .ok (v :: vs, rest)
      | ']' :: rest => .ok ([v], rest)
      | [] => .error .endOfText
      | c :: _ => .error (.unexpected c)

/-- Reads the wanted fields up to the end of an object. -/
def readKnown : Nat → Nat → List (List String × Outline) → List Char →
    Except ReadError (Fields × List Char)
  | 0, _, _, _ => .error .endOfText
  | fuel + 1, depth, known, s =>
    match skipSpace s with
    | '"' :: cs => do
      let (k, rest) ← readString cs
      match skipSpace rest with
      | ':' :: rest => do
        let (fs, rest) ← match Outline.field? known k with
          | some o => do
            let (v, rest) ← readOutlined fuel depth o rest
            pure ([(k, v)], rest)
          | none => do pure ([], ← passValue (2 * rest.length + 2) rest)
        match skipSpace rest with
        | ',' :: rest => do
          let (more, rest) ← readKnown fuel depth known rest
          .ok (fs ++ more, rest)
        | '\x7d' :: rest => .ok (fs, rest)
        | [] => .error .endOfText
        | c :: _ => .error (.unexpected c)
      | [] => .error .endOfText
      | c :: _ => .error (.unexpected c)
    | [] => .error .endOfText
    | c :: _ => .error (.unexpected c)

end

/-- Reads what is wanted of the value that a whole text writes. -/
def readBy (o : Outline) (text : String) : Except ReadError Json := do
  let s := text.toList
  let (v, rest) ← readOutlined (2 * s.length + 2) maxDepth o s
  if (skipSpace rest).isEmpty then .ok v else .error .trailing

/-- What is said of a text that is JSON, but writes no value of the type. -/
def misfit : String := "a field does not have the form that it must have"

/-- Reads a typed value from a text; why there is none otherwise. -/
def decodeText {α : Type} (o : Outline) (decode : Json → Option α) (text : String) :
    Except String α :=
  match readBy o text with
  | .error e => .error e.message
  | .ok v =>
    match decode v with
    | some a => .ok a
    | none => .error misfit

end GraphLedger.Json
