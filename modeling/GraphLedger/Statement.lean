import GraphLedger.Iri
import GraphLedger.Vocabulary
import GraphLedger.Text.Quoted
import GraphLedger.Json.Decode

/-!
# Statements

A statement says something about a subject: it has a predicate, an object that is an IRI or a
literal, the graph it belongs to, and for a literal perhaps a datatype and a language. Its IRIs are
in full; a valid statement has absolute ones.
-/

namespace GraphLedger

/-- The object of a statement. -/
inductive Object where
  | iri (iri : String)
  | literal (value : String)
  deriving DecidableEq, Ord, Inhabited, Repr

namespace Object

/-- The IRI, or the value of the literal. -/
def text : Object → String
  | .iri s => s
  | .literal s => s

/-- Whether the object is an IRI. -/
def isIri : Object → Bool
  | .iri _ => true
  | .literal _ => false

/-- An IRI in angle brackets, a literal in quotes. -/
def display : Object → String
  | .iri s => "<" ++ s ++ ">"
  | .literal s => Text.Quoted.encode s

/-! ### In JSON -/

/-- The object as JSON. -/
def toJson : Object → Json
  | .iri s => .object [("iri", .string s)]
  | .literal s => .object [("literal", .string s)]

/-- The object that JSON writes. -/
def ofJson? : Json → Option Object
  | .object [("iri", .string s)] => some (.iri s)
  | .object [("literal", .string s)] => some (.literal s)
  | _ => none

end Object

/-- A statement in a graph. -/
structure Statement where
  subject : String
  predicate : String
  object : Object
  graph : String
  dataType : Option String
  language : Option String
  deriving DecidableEq, Ord, Inhabited, Repr

/-- The places of a statement that hold an IRI. -/
inductive Position where
  | subject
  | predicate
  | graph
  | object
  deriving DecidableEq, Repr

/-- The name of a place. -/
def Position.name : Position → String
  | .subject => "subject"
  | .predicate => "predicate"
  | .graph => "graph"
  | .object => "object"

/-- An IRI that is not absolute where it should be. -/
structure InvalidIri where
  position : Position
  iri : String
  deriving DecidableEq, Repr

/-- The wording of the fault. -/
def InvalidIri.message (e : InvalidIri) : String :=
  "Invalid IRI for " ++ e.position.name ++ ": '" ++ e.iri ++ "'"

namespace Statement

/-- A statement with an IRI for its object. -/
def ofIri (subject predicate object graph : String) : Statement :=
  ⟨subject, predicate, .iri object, graph, none, none⟩

/-- A statement with a literal for its object. -/
def ofLiteral (subject predicate value graph : String) (dataType language : Option String) :
    Statement :=
  ⟨subject, predicate, .literal value, graph, dataType, language⟩

/-- The places that must hold an absolute IRI, in the order in which they are checked. A graph may
be the default one, and a literal is no IRI. -/
def checked (st : Statement) : List (Position × String) :=
  [(.subject, st.subject), (.predicate, st.predicate)]
    ++ (if st.graph.isEmpty then [] else [(.graph, st.graph)])
    ++ (match st.object with | .iri o => [(.object, o)] | .literal _ => [])

/-- The first place that does not hold an absolute IRI. -/
def invalid? (st : Statement) : Option InvalidIri :=
  (st.checked.find? fun p => !Iri.isAbsolute p.2).map fun p => ⟨p.1, p.2⟩

/-- How a statement is shown. -/
def display (st : Statement) : String :=
  let tag := match st.language, st.dataType with
    | some l, _ => "@" ++ l
    | none, some d => "^^<" ++ d ++ ">"
    | none, none => ""
  let graph := if st.graph.isEmpty then "" else " <" ++ st.graph ++ ">"
  "<" ++ st.subject ++ "> <" ++ st.predicate ++ "> " ++ st.object.display ++ tag ++ graph

/-! ### In JSON -/

/-- The fields of a statement. -/
def layout : Json.Layout :=
  [["subject"], ["predicate"], ["object"], ["graph"], ["dataType"], ["language"]]

/-- A statement as JSON. -/
def toJson (st : Statement) : Json :=
  Json.ofFields [("subject", some (.string st.subject)), ("predicate", some (.string st.predicate)),
    ("object", some st.object.toJson), ("graph", some (.string st.graph)),
    ("dataType", st.dataType.map .string), ("language", st.language.map .string)]

/-- The statement that JSON writes. -/
def ofJson? (v : Json) : Option Statement := do
  match ← Json.fieldsOf? layout v with
  | [subject, predicate, object, graph, dataType, language] =>
    let subject ← Json.required Json.decodeString subject
    let predicate ← Json.required Json.decodeString predicate
    let object ← Json.required Object.ofJson? object
    let graph ← Json.orDefault Vocabulary.defaultGraph Json.decodeString graph
    let dataType ← Json.optional Json.decodeString dataType
    let language ← Json.optional Json.decodeString language
    some ⟨subject, predicate, object, graph, dataType, language⟩
  | _ => none

end Statement

end GraphLedger
