import GraphLedger.Template.Helper
import GraphLedger.Template.Reader

/-!
# Rendering

A template is rendered in a scope: the data, and the blocks around the place, the innermost first. A
block has a value, at which paths begin, variables, and names for values. A block sees the variables
of the block around it unless it has its own. The contents of a partial stand in a scope with a
single block.
-/

namespace GraphLedger.Template

/-- A block around a place in a template. -/
structure Frame where
  value : Json
  vars : List (String × Json)
  names : List (String × Json)
  deriving DecidableEq, Inhabited

/-- The data and the blocks around a place, the innermost first; there is always the block that is
the template. Of the partials around the place it holds their number and the contents of their
blocks, the innermost first, of which some are passed over. -/
structure Scope where
  data : Json
  inner : Frame
  outer : List Frame
  contents : List (List Element)
  passed : Nat
  level : Nat
  deriving Inhabited

namespace Scope

/-- The scope of a whole template. -/
def top (data : Json) : Scope := ⟨data, ⟨data, [], []⟩, [], [], 0, 0⟩

/-- The blocks, the innermost first. -/
def frames (s : Scope) : List Frame := s.inner :: s.outer

/-- The scope within a further block, which also sees the variables of the block around it. -/
def enter (s : Scope) (f : Frame) : Scope :=
  { s with inner := { f with vars := f.vars ++ s.inner.vars }, outer := s.frames }

/-- The value to which some block gives a name. -/
def named? (s : Scope) (name : String) : Option Json :=
  s.frames.findSome? fun f => f.names.lookup name

/-- The value of a path. A name that a block gives is found whatever the blocks that the path goes
up. -/
def path (s : Scope) (p : Path) : Except Fault Json :=
  match p.origin with
  | .variable =>
    let name := p.names.headD ""
    .ok ((((s.frames[p.up]?).bind fun f => f.vars.lookup name)).getD .null)
  | .root => Value.follow s.data p.names
  | .block =>
    match p.names.head?.bind s.named? with
    | some v => Value.follow v (p.names.drop 1)
    | none => Value.follow (s.frames.getD p.up s.inner).value p.names

end Scope

/-! ### Parameters -/

mutual

/-- The value of a parameter. -/
def Param.eval (s : Scope) : Param → Except Fault Json
  | .literal v => .ok v
  | .path p => s.path p
  | .call helper params options => do
    let vs ← Param.evalAll s params
    let os ← Param.evalOptions s options
    Helper.answer helper vs os

/-- The values of parameters. -/
def Param.evalAll (s : Scope) : List Param → Except Fault (List Json)
  | [] => .ok []
  | p :: ps => do
    let v ← p.eval s
    let vs ← Param.evalAll s ps
    return v :: vs

/-- The values of parameters with names. -/
def Param.evalOptions (s : Scope) : List (String × Param) → Except Fault (List (String × Json))
  | [] => .ok []
  | (n, p) :: ps => do
    let v ← p.eval s
    let vs ← Param.evalOptions s ps
    return (n, v) :: vs

end

/-- What a value shows where it stands alone: a helper of its name is called. -/
def Param.show (s : Scope) (p : Param) : Except Fault String := do
  let name ← match p with
    | .path q => pure q.text
    | p => Value.toText <$> p.eval s
  if Helper.names.contains name then Helper.write name [] []
  else Value.toText <$> p.eval s

/-! ### Blocks -/

/-- The names that a block gives to a value and to its key. -/
def blockNames (names : List String) (value key : Json) : List (String × Json) :=
  match names with
  | [n] => [(n, value)]
  | n :: m :: _ => [(m, key), (n, value)]
  | [] => []

/-- The frames of the items of an array from a place on. -/
def itemFrames (names : List String) (index : Nat) : List Json → List Frame
  | [] => []
  | v :: vs =>
    ⟨v, [("first", .bool (index == 0)), ("last", .bool vs.isEmpty), ("index", .int index)],
      blockNames names v (.int index)⟩ :: itemFrames names (index + 1) vs

/-- The frames of the fields of an object from a place on. -/
def fieldFrames (names : List String) (index : Nat) : Json.Fields → List Frame
  | [] => []
  | (k, v) :: fs =>
    ⟨v, [("first", .bool (index == 0)), ("last", .bool fs.isEmpty), ("index", .int index),
      ("key", .string k)], blockNames names v (.string k)⟩ :: fieldFrames names (index + 1) fs

/-- The frames for what a value holds, none if it does not hold anything. -/
def frames (names : List String) : Json → List Frame
  | .array items => itemFrames names 0 items
  | .object fs => fieldFrames names 0 fs
  | _ => []

/-- What a block does. -/
inductive BlockAction where
  | body
  | inverse
  | each (frames : List Frame)
  | text (s : String)
  deriving DecidableEq, Inhabited

/-- What the block of a helper does, given the values of its parameters. -/
def blockAction (c : Call) (params : List Json) (options : List (String × Json)) :
    Except Fault BlockAction := do
  let includeZero := match Helper.option? options "includeZero" with
    | some (.bool b) => b
    | _ => false
  match c.helper with
  | "if" =>
    let v ← Helper.param c.helper params 0
    return if Value.isTrue includeZero v then .body else .inverse
  | "unless" =>
    let v ← Helper.param c.helper params 0
    return if Value.isTrue includeZero v then .inverse else .body
  | "with" =>
    let v ← Helper.param c.helper params 0
    let names := if c.names.length == 1 then blockNames c.names v .null else []
    return if Value.isTrue false v then .each [⟨v, [], names⟩] else .inverse
  | "each" =>
    let v ← Helper.param c.helper params 0
    let fs := frames c.names v
    return if fs.isEmpty then .inverse else .each fs
  | "raw" => return .body
  | _ =>
    match ← Helper.answer c.helper params options with
    | .bool b =>
      if Helper.tests.contains c.helper then return if b then .body else .inverse
      else return .text (Value.toText (.bool b))
    | v => return .text (Value.toText v)

/-! ### Partials -/

/-- The contents that decorations have given a name to, the last first. -/
abbrev Definitions := List (String × List Element)

/-- A part of rendering, which may define names. -/
abbrev Rendering := StateT Definitions (Except Fault)

/-- The name of the partial that is the contents of the block of the partial around it. -/
def contentsName : String := "@partial-block"

/-- The greatest number of partials within each other. -/
def maxLevel : Nat := 250

/-- Gives a name to the contents of a decoration. -/
def decorate (s : Scope) (c : Call) (contents : Option (List Element)) : Rendering Unit := do
  let vs ← Param.evalAll s c.params
  let _ ← Param.evalOptions s c.options
  if c.helper ≠ "inline" then throw (.unknownDecorator c.helper)
  match vs.head?, contents with
  | some (.string name), some es => modify ((name, es) :: ·)
  | none, _ => throw (.missingParameter c.helper 0)
  | _, none => throw (.noContents c.helper)
  | _, _ => throw .badPartialName

/-- Gives the names of the decorations among elements. -/
def decorateAll (s : Scope) (es : List Element) : Rendering Unit :=
  es.forM fun
    | .decoration c contents => decorate s c contents
    | _ => return

/-- The value for which a partial is shown: its parameter or the present value, with its options as
further fields. -/
def partialValue (s : Scope) (params : List Json) (options : List (String × Json)) : Json :=
  let v := params.headD s.inner.value
  if options.isEmpty then v
  else
    let fields := match v with
      | .object fs => fs
      | _ => []
    .object (options.foldl (fun fs o => Json.Fields.set o.1 o.2 fs) fields)

/-- The elements of a partial and the scope for them. A block of a partial has contents, which stand
for a partial that has no name, and which the partial may show. -/
def partialBody (s : Scope) (name : String) (params : List Json) (options : List (String × Json))
    (contents : Option (List Element)) : Rendering (Scope × List Element) := do
  let definitions ← get
  let found := if name = contentsName then s.contents[s.passed]? else definitions.lookup name
  match found <|> contents with
  | none => throw (.unknownPartial name)
  | some es =>
    if maxLevel ≤ s.level then throw .tooDeep
    let inner : Frame := ⟨partialValue s params options, s.inner.vars, []⟩
    let passed := if name = contentsName then s.passed + 1 else s.passed - 1
    return (⟨s.data, inner, [], contents.toList ++ s.contents, passed, s.level + 1⟩, es)

/-! ### Elements -/

/-- The texts of elements one after the other. -/
def joinTexts (render : Element → Rendering String) (es : List Element) : Rendering String := do
  return String.join (← es.mapM render)

/-- The text of an element, blocks and partials being nested so deeply at most. -/
def Element.render : Nat → Scope → Element → Rendering String
  | 0, _, _ => throw .tooDeep
  | fuel + 1, s, e => do
    match e with
    | .text t => return t
    | .value p => p.show s
    | .call c =>
      let vs ← Param.evalAll s c.params
      let os ← Param.evalOptions s c.options
      Helper.write c.helper vs os
    | .block c body inverse =>
      let vs ← Param.evalAll s c.params
      let os ← Param.evalOptions s c.options
      match ← blockAction c vs os with
      | .body => joinTexts (Element.render fuel s) body
      | .inverse => joinTexts (Element.render fuel s) inverse
      | .each fs =>
        let texts ← fs.mapM fun f => joinTexts (Element.render fuel (s.enter f)) body
        return String.join texts
      | .text t => return t
    | .piece name params options contents =>
      let name := Value.toText (← name.eval s)
      let vs ← Param.evalAll s params
      let os ← Param.evalOptions s options
      decorateAll s (contents.getD [])
      let (inside, es) ← partialBody s name vs os contents
      joinTexts (Element.render fuel inside) es
    | .decoration c contents =>
      decorate s c contents
      return ""

/-- The text of a template for some data. Within a partial, no more blocks are within each other
than the template has characters. -/
def render (template : String) (data : Json) : Except Fault String := do
  let es ← read template
  let depth := (maxLevel + 1) * (template.length + 1)
  let (text, _) ← (joinTexts (Element.render depth (.top data)) es).run []
  return text

end GraphLedger.Template
