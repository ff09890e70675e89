import GraphLedger.Template.Tag

/-!
# Reading templates

The pieces of a template are put together to a tree, in which a block holds its contents and its
alternative. Meanwhile blanks are trimmed: where a tag asks for it, and where a tag of a block or a
comment has a line of its own.
-/

namespace GraphLedger.Template

/-- The kind of a block: a helper's, a partial's with its name and arguments, or a decoration's. -/
inductive BlockKind where
  | helper
  | piece (name : Param) (params : List Param) (options : List (String × Param))
  | decoration (c : Call)
  deriving Inhabited

/-- A block that is still open: the name that closes it, what stood before it, its finished
branches, the last first, and the call of the present branch unless that is the final alternative.
Elements are in reverse. -/
structure OpenBlock where
  kind : BlockKind
  name : String
  before : List Element
  branches : List (Call × List Element)
  branch : Option Call
  deriving Inhabited

/-- What has been put together so far: the elements of the innermost block in reverse, the open
blocks, and whether the next text is to be trimmed at its beginning or by a line. -/
structure Assembly where
  elements : List Element
  blocks : List OpenBlock
  trimNext : Bool
  trimLine : Bool
  deriving Inhabited

namespace Assembly

/-- Nothing yet. -/
def empty : Assembly := ⟨[], [], false, false⟩

/-! ### Texts -/

/-- A text without the blanks of its first line and the end of that line. -/
def dropLine (cs : List Char) : List Char :=
  match cs.dropWhile isIndent with
  | '\r' :: '\n' :: rest => rest
  | '\n' :: rest => rest
  | rest => rest

/-- Adds an element. -/
def push (a : Assembly) (e : Element) : Assembly := { a with elements := e :: a.elements }

/-- Adds a text, trimmed as the tag before it wants it. -/
def pushText (a : Assembly) (cs : List Char) : Assembly :=
  let trimmed :=
    if a.trimNext then cs.dropWhile Text.isBlank
    else if a.trimLine then dropLine cs
    else cs
  a.push (.text (String.ofList trimmed))

/-- Adds the blanks before a tag, unless they are to be trimmed. -/
def pushGap (a : Assembly) (gap : List Char) : Assembly :=
  if gap.isEmpty || a.trimNext then a else { a.pushText gap with trimLine := false }

/-- Trims the end of the last text. -/
def trimLast (a : Assembly) (p : Char → Bool) : Assembly :=
  match a.elements with
  | .text s :: before =>
    { a with elements := .text (String.ofList (Text.dropEndWhile p s.toList)) :: before }
  | _ => a

/-- Trims the line before a tag that has a line of its own, and remembers to trim the line after it.
-/
def trimOwnLine (a : Assembly) (p : Piece) : Assembly :=
  let own := p.beginsLine && p.endsLine
  { (if own then a.trimLast isIndent else a) with trimLine := own }

/-! ### Blocks -/

/-- Opens a block. -/
def enter (a : Assembly) (kind : BlockKind) (name : String) (branch : Option Call) : Assembly :=
  { a with elements := [], blocks := ⟨kind, name, a.elements, [], branch⟩ :: a.blocks }

/-- Ends the present branch of a block and begins another, which is the final one if it has no call.
-/
def turn (a : Assembly) (next : Option Call) : Except Fault Assembly :=
  match a.blocks with
  | b :: outer =>
    match b.branch with
    | some c =>
      let b' := { b with branches := (c, a.elements.reverse) :: b.branches, branch := next }
      .ok { a with elements := [], blocks := b' :: outer }
    | none => .error .strayTag
  | [] => .error .strayTag

/-- The branches of a block, the last first, as blocks in each other's alternatives. -/
def nest (inverse : List Element) : List (Call × List Element) → List Element
  | [] => inverse
  | (c, body) :: before => nest [.block c body inverse] before

/-- The elements that a block makes whose last branch is given. -/
def ofBlock (b : OpenBlock) (last : List Element) : List Element :=
  match b.kind with
  | .helper =>
    match b.branch with
    | some c => nest [] ((c, last) :: b.branches)
    | none => nest last b.branches
  | .piece name params options => [.piece name params options (some last)]
  | .decoration c => [.decoration c (some last)]

/-- Whether a name closes a block. A partial's block may be closed without a name. -/
def closes (b : OpenBlock) (name : String) : Bool :=
  match b.kind with
  | .piece .. => name.isEmpty || name == b.name
  | _ => name == b.name

/-- Closes a block. -/
def leave (a : Assembly) (name : String) : Except Fault Assembly :=
  match a.blocks with
  | b :: outer =>
    if closes b name then
      .ok { a with elements := (ofBlock b a.elements.reverse).reverse ++ b.before, blocks := outer }
    else .error (.wrongClose b.name name)
  | [] => .error .strayTag

/-! ### Pieces -/

/-- Adds a tag whose trimming has been seen to on its left. -/
def addTag (a : Assembly) (p : Piece) : Tag → Except Fault Assembly
  | .inline e => .ok (a.push e)
  | .statement e => .ok ((a.trimOwnLine p).push e)
  | .comment => .ok ((a.trimOwnLine p).push (.text ""))
  | .openBlock c => .ok ((a.trimOwnLine p).enter .helper c.helper (some c))
  | .openPiece name closing params options =>
    .ok ((a.trimOwnLine p).enter (.piece name params options) closing none)
  | .openDecoration c => .ok ((a.trimOwnLine p).enter (.decoration c) c.helper none)
  | .otherwiseIf c => (a.trimOwnLine p).turn (some c)
  | .otherwise => (a.trimOwnLine p).turn none
  | .close n => (a.trimOwnLine p).leave n

/-- Adds a piece. -/
def add (a : Assembly) (p : Piece) : Except Fault Assembly :=
  let a := a.pushGap p.gap
  match p.body with
  | .text cs => .ok { a.pushText cs with trimLine := false }
  | .verbatim cs => .ok (a.pushText cs)
  | .tag .comment _ _ => a.addTag p .comment
  | .tag t before after =>
    let a := if before then a.trimLast Text.isBlank else a
    { a with trimNext := after }.addTag p t

/-- Adds pieces one after the other. -/
def addAll : List Piece → Assembly → Except Fault Assembly
  | [], a => .ok a
  | p :: ps, a => do addAll ps (← a.add p)

end Assembly

/-- The elements of a template. -/
def read (template : String) : Except Fault (List Element) := do
  let a ← Assembly.addAll (← pieces template) .empty
  match a.blocks with
  | [] => return a.elements.reverse
  | b :: _ => throw (.unclosedBlock b.name)

end GraphLedger.Template
