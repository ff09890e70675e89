import GraphLedger.JsonLd.Node

/-! # Drafts of statements

Which IRI a blank node gets depends on all that was named before it. What does not depend on it is
told by *drafts*: statements in which a blank node stands for itself, told by its label, or by the
path to it if it has none. A path lists the places on the way to an object, the innermost first,
among the fields of an object, the items of an array, or the calls of a translation.

Drafts are made of a node alone, without a supply and without a table of labels. Names for the blank
nodes turn drafts into statements.

* `Blank`, `Ident`, `Draft`: blank nodes, what stands for a node, and statements about them.
* `draftNode`, `draftDocument`: the drafts of a node and of a document.
* `Draft.statement`: a draft under names for the blank nodes. -/

namespace GraphLedger.JsonLd

/-! ### Drafts -/

/-- A node that has no IRI of its own: it has a label, or else it is told by the path to it. -/
inductive Blank where
  | label (label : String)
  | unnamed (path : List Nat)
  deriving DecidableEq

/-- What stands for a node. -/
inductive Ident where
  | given (iri : String)
  | blank (b : Blank)
  deriving DecidableEq

/-- The object of a draft. -/
inductive DraftObject where
  | node (id : Ident)
  | literal (value : String)
  deriving DecidableEq

/-- A statement about nodes that need not have names yet. -/
structure Draft where
  subject : Ident
  predicate : String
  object : DraftObject
  graph : Ident
  dataType : Option String
  language : Option String
  deriving DecidableEq

section Names
variable (α : Blank → String)

/-- The IRI of a node, given those of the blank ones. -/
def Ident.iri : Ident → String
  | .given iri => iri
  | .blank b => α b

/-- The object of a statement, given the IRIs of the blank nodes. -/
def DraftObject.object : DraftObject → Object
  | .node id => .iri (id.iri α)
  | .literal value => .literal value

/-- **The statement of a draft**, given the IRIs of the blank nodes. -/
def Draft.statement (d : Draft) : Statement :=
  ⟨d.subject.iri α, d.predicate, d.object.object α, d.graph.iri α, d.dataType, d.language⟩

/-- The statements of drafts. -/
def Draft.statements (ds : List Draft) : List Statement := ds.map (Draft.statement α)

theorem Draft.statements_append (ds es : List Draft) :
    Draft.statements α (ds ++ es) = Draft.statements α ds ++ Draft.statements α es :=
  List.map_append

end Names

/-! ### Places -/

/-- Where a value stands: the subject and property it belongs to, and the graph. -/
structure DraftPlace where
  subject : Ident
  predicate : String
  graph : Ident

namespace DraftPlace

/-- The place, given the IRIs of the blank nodes. -/
def place (α : Blank → String) (p : DraftPlace) : Place :=
  ⟨p.subject.iri α, p.predicate, p.graph.iri α⟩

variable (p : DraftPlace)

/-- The draft that links to a node. -/
def link (id : Ident) : Draft := ⟨p.subject, p.predicate, .node id, p.graph, none, none⟩

/-- The draft of a literal. -/
def literal (value : String) (dataType language : Option String) : Draft :=
  ⟨p.subject, p.predicate, .literal value, p.graph, dataType, language⟩

end DraftPlace

/-! ### Values -/

/-- What an identifier stands for. -/
def ident (c : Context) (id : String) : Ident :=
  match id.toList with
  | '_' :: ':' :: label => .blank (.label (String.ofList label))
  | _ => .given (c.expandReference id)

theorem ident_of_label (c : Context) {id : String} {label : List Char}
    (h : id.toList = '_' :: ':' :: label) :
    ident c id = .blank (.label (String.ofList label)) := by
  rw [ident, h]
  rfl

theorem ident_of_not_label (c : Context) {id : String}
    (h : ¬ ∃ label, id.toList = '_' :: ':' :: label) :
    ident c id = .given (c.expandReference id) := by
  unfold ident
  split
  · exact absurd ⟨_, ‹_›⟩ h
  · rfl

/-- The draft of a value object. -/
def draftLiteral (c : Context) (p : DraftPlace) (literal : Json) (fs : Json.Fields) :
    Except Fault Draft :=
  (valueObject c ⟨"", "", ""⟩ literal fs).map fun st =>
    p.literal st.object.text st.dataType st.language

theorem valueObject_place (c : Context) (p : Place) (literal : Json) (fs : Json.Fields) :
    valueObject c p literal fs = (valueObject c ⟨"", "", ""⟩ literal fs).map fun st =>
      p.literal st.object.text st.dataType st.language := by
  unfold valueObject
  cases (Json.Fields.get? fs "@language").bind Json.asString? <;>
    cases (Json.Fields.get? fs "@type").bind Json.asString? <;>
    cases lexical literal <;> rfl

/-- The drafts of the types of a node. -/
def draftTypes (c : Context) (subject graph : Ident) : List Json → Except Fault (List Draft)
  | [] => .ok []
  | .string t :: vs =>
    (draftTypes c subject graph vs).map fun ds =>
      DraftPlace.link ⟨subject, Vocabulary.rdfType, graph⟩ (.given (c.expandTerm t)) :: ds
  | v :: _ => .error (.badType v)

/-! ### Nodes -/

/-- What an object is before its properties are looked at. -/
structure DraftHeader where
  context : Context
  graph : Ident
  id : Ident

/-- The header, given the IRIs of the blank nodes. -/
def DraftHeader.header (α : Blank → String) (h : DraftHeader) : Header :=
  ⟨h.context, h.graph.iri α, h.id.iri α⟩

/-- What an object with some path is in a context and graph. -/
def draftHeader (c : Context) (graph : Ident) (path : List Nat) (fs : Json.Fields) :
    Except Fault DraftHeader := do
  let c ← innerContext c fs
  match ← explicitId fs with
  | some id => return ⟨c, if isContainer fs then ident c id else graph, ident c id⟩
  | none => return ⟨c, graph, if isContainer fs then graph else .blank (.unnamed path)⟩

mutual

/-- The drafts of the value of a property. -/
def draftValue (c : Context) (p : DraftPlace) (coercion : Option Coercion) (path : List Nat) :
    Json → Except Fault (List Draft)
  | .null => return []
  | .bool b =>
    return [p.literal (Json.bool b).compact (some Vocabulary.xsdBoolean) none]
  | .int n =>
    return [p.literal (Json.int n).compact (some (numberType coercion Vocabulary.xsdInteger)) none]
  | .float x =>
    return [p.literal (Json.float x).compact (some (numberType coercion Vocabulary.xsdDouble)) none]
  | .string s =>
    match coercion with
    | some .id => return [p.link (ident c s)]
    | some (.datatype d) => return [p.literal s (some d) none]
    | none => return [p.literal s none none]
  | .array items => draftItems c p coercion path 0 items
  | .object fs =>
    match Json.Fields.get? fs "@value" with
    | some literal => do return [← draftLiteral c p literal fs]
    | none =>
      if Json.Fields.has fs "@list" then draftKey c p coercion path "@list" fs
      else if Json.Fields.has fs "@set" then draftKey c p coercion path "@set" fs
      else if isReference fs then
        return [p.link (ident c (((Json.Fields.get? fs "@id").bind Json.asString?).getD ""))]
      else do
        let h ← draftHeader c p.graph path fs
        let ds ← draftFields h.context h.id h.graph path 0 fs
        return ds ++ [p.link h.id]

/-- The drafts of several values of a property, of which the first is at a place. -/
def draftItems (c : Context) (p : DraftPlace) (coercion : Option Coercion) (path : List Nat)
    (i : Nat) : List Json → Except Fault (List Draft)
  | [] => return []
  | v :: vs => do
    let ds ← draftValue c p coercion (i :: path) v
    let rest ← draftItems c p coercion path (i + 1) vs
    return ds ++ rest

/-- The drafts of the value that a key has among the fields of a list or set object. No node is
between the two, so that the path is the same. -/
def draftKey (c : Context) (p : DraftPlace) (coercion : Option Coercion) (path : List Nat)
    (key : String) : List (String × Json) → Except Fault (List Draft)
  | [] => return []
  | (k, v) :: fs =>
    if k = key then draftValue c p coercion path v else draftKey c p coercion path key fs

/-- The drafts of the fields of a node, of which the first is at a place. -/
def draftFields (c : Context) (subject graph : Ident) (path : List Nat) (i : Nat) :
    List (String × Json) → Except Fault (List Draft)
  | [] => return []
  | (k, v) :: fs => do
    let ds ←
      if k = "@type" then draftTypes c subject graph v.asItems
      else if k = "@graph" then draftChildren c graph (i :: path) v
      else if isKeyword k then pure []
      else draftValue c ⟨subject, c.expandTerm k, graph⟩ (c.coercion? k) (i :: path) v
    let rest ← draftFields c subject graph path (i + 1) fs
    return ds ++ rest

/-- The drafts of what a graph holds. -/
def draftChildren (c : Context) (graph : Ident) (path : List Nat) :
    Json → Except Fault (List Draft)
  | .array items => draftChildList c graph path 0 items
  | .object fs => do
    let h ← draftHeader c graph path fs
    draftFields h.context h.id h.graph path 0 fs
  | v => throw (.badGraphEntry v)

/-- The drafts of several objects in a graph, of which the first is at a place. -/
def draftChildList (c : Context) (graph : Ident) (path : List Nat) (i : Nat) :
    List Json → Except Fault (List Draft)
  | [] => return []
  | .object fs :: vs => do
    let h ← draftHeader c graph (i :: path) fs
    let ds ← draftFields h.context h.id h.graph (i :: path) 0 fs
    let rest ← draftChildList c graph path (i + 1) vs
    return ds ++ rest
  | v :: _ => throw (.badGraphEntry v)

end

/-- The drafts of a node with some path. -/
def draftNode (c : Context) (path : List Nat) (fs : Json.Fields) : Except Fault (List Draft) := do
  let h ← draftHeader c (.given Vocabulary.defaultGraph) path fs
  draftFields h.context h.id h.graph path 0 fs

/-- The drafts of the objects of a document, of which the first is at a place. -/
def draftTopLevel (c : Context) (path : List Nat) (i : Nat) :
    List Json → Except Fault (List Draft)
  | [] => return []
  | v :: vs => do
    let ds ← draftNode c (i :: path) (← topLevel v)
    let rest ← draftTopLevel c path (i + 1) vs
    return ds ++ rest

/-- The drafts of a document with some path. -/
def draftDocument (c : Context) (path : List Nat) : Json → Except Fault (List Draft)
  | .array items => draftTopLevel c path 0 items
  | .object fs => draftNode c path fs
  | v => throw (.notDocument v)

end GraphLedger.JsonLd
