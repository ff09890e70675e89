import GraphLedger.Template.Param

/-!
# Pieces of a template

A template is taken apart into texts and tags, each with the blanks that stand before it. A tag may
ask for the blanks before or after it to be trimmed.
-/

namespace GraphLedger.Template

/-- What a tag says. -/
inductive Tag where
  | inline (e : Element)
  | statement (e : Element)
  | comment
  | openBlock (c : Call)
  | openPiece (name : Param) (closing : String) (params : List Param)
      (options : List (String × Param))
  | openDecoration (c : Call)
  | otherwiseIf (c : Call)
  | otherwise
  | close (name : String)
  deriving Inhabited

/-- A text or a tag; a tag asks for trimming before and after it. -/
inductive Body where
  | text (s : List Char)
  | verbatim (s : List Char)
  | tag (t : Tag) (trimBefore trimAfter : Bool)
  deriving Inhabited

/-- A text or a tag with the blanks before it; and whether a tag begins and ends a line. -/
structure Piece where
  gap : List Char
  body : Body
  beginsLine : Bool
  endsLine : Bool
  deriving Inhabited

/-! ### Texts -/

/-- Reads text up to a tag, or up to the end of a block of verbatim text. A backslash keeps braces
from being a tag; a backslash before it takes that meaning away. -/
def scanText (isVerbatim afterBackslash : Bool) : List Char → List Char × List Char
  | [] => ([], [])
  | '\\' :: '\x7b' :: '\x7b' :: '\x7b' :: '\x7b' :: cs =>
    let braces := ['\x7b', '\x7b', '\x7b', '\x7b']
    if afterBackslash then ([], braces ++ cs)
    else
      let (text, after) := scanText isVerbatim false cs
      (braces ++ text, after)
  | '\\' :: '\x7b' :: '\x7b' :: cs =>
    let braces := ['\x7b', '\x7b']
    if afterBackslash && !isVerbatim then ([], braces ++ cs)
    else
      let (text, after) := scanText isVerbatim false cs
      (braces ++ text, after)
  | c :: cs =>
    let opening := if isVerbatim then "\x7b\x7b\x7b\x7b" else "\x7b\x7b"
    if (Text.afterStart? opening.toList (c :: cs)).isSome then ([], c :: cs)
    else
      let (text, after) := scanText isVerbatim (c == '\\') cs
      (c :: text, after)

/-! ### Tags -/

namespace Scan

/-- A value: a call in parentheses or a path. -/
def value : Scan Element := do
  let n := (← rest).length
  (do word ['(']; return .value (← callOf (param (n + 1)))) <|> (do return .value (.path (← path)))

/-- A call of a helper with at least one argument, or a value. -/
def expression : Scan Element :=
  (do
    let helper ← name
    let args ← arguments
    if args.isEmpty then failure
    return .call ⟨helper, paramsOf args, optionsOf args, []⟩) <|> value

/-- The names between bars that a block gives to values. -/
def blockNames : Scan (List String) := (do
  space
  word "as".toList
  space
  word ['|']
  space
  let first ← name
  let second ← (do space; return [← name]) <|> return []
  space
  word ['|']
  return first :: second) <|> return []

/-- The call in which a block consists. -/
def blockCall : Scan Call := do
  let helper ← name
  let args ← arguments
  let names ← blockNames
  return ⟨helper, paramsOf args, optionsOf args, names⟩

/-- Whether a character may stand in the name of a partial. -/
def isPieceSymbol (c : Char) : Bool := isSymbol c || c == '/' || c == '.'

/-- What follows a name in single quotes that is open. A backslash keeps a quote from ending it. -/
def afterQuotedName? : List Char → Option (List Char)
  | [] => none
  | '\'' :: cs => some cs
  | '\\' :: '\'' :: cs => afterQuotedName? cs
  | _ :: cs => afterQuotedName? cs

/-- A name in single quotes, which is not empty. -/
def quotedName : Scan Unit := do
  match ← rest with
  | '\'' :: c :: cs =>
    match (if c = '\'' then none else afterQuotedName? (c :: cs)) with
    | some after => set after
    | none => failure
  | _ => failure

/-- The name of a partial: a run of characters, a name in quotes, a path as it is written, or a call
whose answer is the name; and the name that closes a block of the partial. -/
def pieceName : Scan (Param × String) :=
  (do
    let (_, text) ← withText
      ((do let _ ← takeRun isPieceSymbol) <|> quotedName <|> (do let _ ← path))
    let name := String.ofList text
    return (.literal (.string name), name)) <|> (do
    let n := (← rest).length
    word ['(']
    return (← callOf (param (n + 1)), ""))

/-- The name and the arguments of a partial. -/
def pieceCall : Scan (Param × String × List Param × List (String × Param)) := do
  let (name, closing) ← pieceName
  let args ← arguments
  return (name, closing, paramsOf args, optionsOf args)

/-- The name that closes a block, which may be left out. -/
def closingName : Scan String :=
  (do return (← pieceName).2) <|> return ""

/-- The word for the alternative of a block. -/
def elseWord : Scan Unit := word "else".toList <|> word ['^']

/-- A mark with blanks after it. -/
def mark (c : Char) : Scan Unit := do
  word [c]
  space

/-- What stands between braces, and whether blanks before and after it are to be trimmed. -/
def between {α : Type} (opening closing : String) (inner : Scan α) : Scan (α × Bool × Bool) := do
  word opening.toList
  space
  let trimBefore ← optional ['~']
  space
  let a ← inner
  space
  let trimAfter ← optional ['~']
  space
  word closing.toList
  return (a, trimBefore, trimAfter)

/-- A tag in double braces. -/
def braced (inner : Scan Tag) : Scan (Tag × Bool × Bool) := between "\x7b\x7b" "\x7d\x7d" inner

/-- What follows the first occurrence of given characters. -/
def afterFirst? (w : List Char) : List Char → Option (List Char)
  | [] => if w.isEmpty then some [] else none
  | c :: cs =>
    match Text.afterStart? w (c :: cs) with
    | some after => some after
    | none => afterFirst? w cs

/-- A comment after given characters, with blanks between them, up to others. -/
def comment (opening : List String) (closing : String) : Scan (Tag × Bool × Bool) := do
  opening.forM fun w => do
    space
    word w.toList
  match afterFirst? closing.toList (← rest) with
  | some after =>
    set after
    return (.comment, false, false)
  | none => failure

/-- A tag. -/
def tag : Scan (Tag × Bool × Bool) :=
  braced (do elseWord; return .otherwise)
    <|> braced (do elseWord; space; return .otherwiseIf (← blockCall))
    <|> braced (do return .inline (← expression))
    <|> braced (do mark '\x7b'; let e ← expression; space; word ['\x7d']; return .inline e)
    <|> between "\x7b\x7b\x7b" "\x7d\x7d\x7d" (do return .inline (← expression))
    <|> braced (do mark '&'; return .inline (← value))
    <|> braced (do mark '#'; return .openBlock (← blockCall))
    <|> comment ["\x7b\x7b!", "--"] "--\x7d\x7d"
    <|> comment ["\x7b\x7b!"] "\x7d\x7d"
    <|> braced (do mark '*'; return .statement (.decoration (← blockCall) none))
    <|> braced (do mark '#'; mark '*'; return .openDecoration (← blockCall))
    <|> braced (do
      mark '>'
      let (name, _, params, options) ← pieceCall
      return .statement (.piece name params options none))
    <|> braced (do
      mark '#'
      mark '>'
      let (name, closing, params, options) ← pieceCall
      return .openPiece name closing params options)
    <|> braced (do mark '/'; return .close (← closingName))

/-- The opening of a block of verbatim text. -/
def openVerbatim : Scan (Tag × Bool × Bool) :=
  between "\x7b\x7b\x7b\x7b" "\x7d\x7d\x7d\x7d" (do return .openBlock (← blockCall))

/-- The end of a block of verbatim text. -/
def closeVerbatim : Scan (Tag × Bool × Bool) :=
  between "\x7b\x7b\x7b\x7b" "\x7d\x7d\x7d\x7d" (do mark '/'; return .close (← name))

end Scan

/-! ### Pieces -/

/-- Whether a character ends a line. -/
def endsLine (c : Char) : Bool := c == '\n' || c == '\r'

/-- Whether a character is blank within a line. -/
def isIndent (c : Char) : Bool := c == ' ' || c == '\t'

/-- Whether a line holds only blanks so far, after further characters. -/
def lineStart (before : Bool) (cs : List Char) : Bool :=
  cs.foldl (fun b c => if endsLine c then true else b && isIndent c) before

/-- Whether a line holds only blanks from here on, and ends. -/
def lineEnd (cs : List Char) : Bool :=
  match cs.dropWhile isIndent with
  | c :: _ => endsLine c
  | [] => false

/-- What was read between two places of a text. -/
def passed (before after : List Char) : List Char := before.take (before.length - after.length)

/-- The pieces of a block of verbatim text and what follows them. -/
def verbatimPieces (gap : List Char) (clean : Bool) (cs : List Char) :
    OptionT (Except Fault) (List Piece × List Char) := do
  let ((t, b, a), after) ← Scan.openVerbatim.run cs
  let inner := after.dropWhile Scan.isSpace
  let (text, close) := scanText true false inner
  let ((t', b', a'), rest) ← Scan.closeVerbatim.run close
  let clean' := lineStart clean (passed cs close)
  return ([⟨gap, .tag t b a, clean, lineEnd after⟩, ⟨[], .verbatim text, false, false⟩,
    ⟨[], .tag t' b' a', clean', lineEnd rest⟩], rest)

/-- The pieces at the beginning of a text that begins with braces, and what follows them. -/
def tagPieces (gap : List Char) (clean : Bool) (cs : List Char) :
    OptionT (Except Fault) (List Piece × List Char) :=
  (do
    let ((t, b, a), after) ← Scan.tag.run cs
    return ([⟨gap, .tag t b a, clean, lineEnd after⟩], after)) <|> verbatimPieces gap clean cs

/-- The pieces of a template. Blanks at the beginning belong to the first text. -/
def piecesFrom : Nat → Bool → Bool → List Char → Except Fault (List Piece)
  | 0, _, _, _ => .ok []
  | fuel + 1, first, clean, cs => do
    let gap := if first then [] else cs.takeWhile Scan.isSpace
    let body := if first then cs else cs.dropWhile Scan.isSpace
    let clean' := lineStart clean gap
    match body with
    | [] => return []
    | '\x7b' :: '\x7b' :: _ =>
      match ← (tagPieces gap clean' body).run with
      | some (pieces, after) =>
        return pieces ++ (← piecesFrom fuel false (lineStart clean' (passed body after)) after)
      | none => throw .badTag
    | _ =>
      let (text, after) := scanText false false body
      return ⟨[], .text (gap ++ text), false, false⟩
        :: (← piecesFrom fuel false (lineStart clean' (passed body after)) after)

/-- The pieces of a template. -/
def pieces (template : String) : Except Fault (List Piece) :=
  piecesFrom (template.length + 1) true true template.toList

end GraphLedger.Template
