import GraphLedger.JsonLd.Skolem

/-!
# Statements of nodes

A JSON-LD object is turned into the statements it makes. A node has an IRI, from its `@id` or
minted, and each of its properties makes statements about it: one for each value, be it a plain
value, a value object, a reference, or a nested node, which is linked after its own statements. An
object that has nothing but `@graph`, `@id` and `@context` is no node but names the graph of what is
in it.
-/

namespace GraphLedger.JsonLd

/-! ### Literals -/

/-- Where a value stands: the subject and property it belongs to, and the graph. -/
structure Place where
  subject : String
  predicate : String
  graph : String
  deriving DecidableEq, Inhabited, Repr

namespace Place

/-- The statement that links to an IRI. -/
def link (p : Place) (iri : String) : Statement :=
  Statement.ofIri p.subject p.predicate iri p.graph

/-- The statement of a literal. -/
def literal (p : Place) (value : String) (dataType language : Option String) : Statement :=
  Statement.ofLiteral p.subject p.predicate value p.graph dataType language

end Place

/-- The datatype of a number, unless the term has one of its own. -/
def numberType (coercion : Option Coercion) (default : String) : String :=
  match coercion with
  | some (.datatype d) => d
  | _ => default

/-- The text of the literal in a value object. -/
def lexical : Json → Except Fault String
  | .string s => .ok s
  | .null => .error .nullValue
  | v => .ok v.compact

/-- The datatype of the literal in a value object that names none. -/
def nativeType? : Json → Option String
  | .bool _ => some Vocabulary.xsdBoolean
  | .int _ => some Vocabulary.xsdInteger
  | .float _ => some Vocabulary.xsdDouble
  | _ => none

/-- The statement of a value object. -/
def valueObject (c : Context) (p : Place) (literal : Json) (fs : Json.Fields) :
    Except Fault Statement :=
  let language := (Json.Fields.get? fs "@language").bind Json.asString?
  let type := (Json.Fields.get? fs "@type").bind Json.asString?
  match language, type with
  | some _, some _ => .error .typedLanguage
  | some l, none =>
    (lexical literal).map fun s => p.literal s (some Vocabulary.langString) (some l)
  | none, some t =>
    let d := c.expandTerm t
    (lexical literal).map fun s =>
      p.literal s (if d = Vocabulary.xsdString then none else some d) none
  | none, none => (lexical literal).map fun s => p.literal s (nativeType? literal) none

/-! ### Nodes -/

/-- What an object is before its properties are looked at: the context inside it, the graph of what
it holds, and the IRI that stands for it. -/
structure Header where
  context : Context
  graph : String
  iri : String
  deriving DecidableEq, Inhabited, Repr

/-- The keys of an object that only names a graph. -/
def isContainerKey (key : String) : Bool := key = "@graph" || key = "@id" || key = "@context"

/-- Whether an object only names the graph of what it holds. -/
def isContainer (fs : Json.Fields) : Bool :=
  Json.Fields.has fs "@graph" && fs.all fun f => isContainerKey f.1

/-- Whether an object only refers to a node. -/
def isReference (fs : Json.Fields) : Bool :=
  Json.Fields.has fs "@id" && fs.all fun f => f.1 = "@id" || f.1 = "@context"

/-- The context inside an object. -/
def innerContext (c : Context) (fs : Json.Fields) : Except Fault Context :=
  match Json.Fields.get? fs "@context" with
  | some v => c.merge v
  | none => .ok c

/-- The identifier of an object, if it has one. -/
def explicitId (fs : Json.Fields) : Except Fault (Option String) :=
  match Json.Fields.get? fs "@id" with
  | some (.string id) => .ok (some id)
  | some v => .error (.badId v)
  | none => .ok none

/-- The header of an object in a context and graph. -/
def header (c : Context) (graph : String) (fs : Json.Fields) : Naming Header := do
  let c ← innerContext c fs
  match ← explicitId fs with
  | some id =>
    let iri ← nodeIri c id
    return ⟨c, if isContainer fs then iri else graph, iri⟩
  | none =>
    if isContainer fs then return ⟨c, graph, graph⟩
    else return ⟨c, graph, ← mint⟩

/-- The statements of the types of a node. -/
def typeStatements (c : Context) (subject graph : String) :
    List Json → Except Fault (List Statement)
  | [] => .ok []
  | .string t :: vs =>
    (typeStatements c subject graph vs).map fun sts =>
      Statement.ofIri subject Vocabulary.rdfType (c.expandTerm t) graph :: sts
  | v :: _ => .error (.badType v)

/-- Whether a key is a keyword. -/
def isKeyword (key : String) : Bool := Context.isKeyword key

mutual

/-- The statements of the value of a property. -/
def ofValue (c : Context) (p : Place) (coercion : Option Coercion) :
    Json → Naming (List Statement)
  | .null => return []
  | .bool b =>
    return [p.literal (Json.bool b).compact (some Vocabulary.xsdBoolean) none]
  | .int n =>
    return [p.literal (Json.int n).compact (some (numberType coercion Vocabulary.xsdInteger)) none]
  | .float x =>
    return [p.literal (Json.float x).compact (some (numberType coercion Vocabulary.xsdDouble)) none]
  | .string s =>
    match coercion with
    | some .id => do return [p.link (← nodeIri c s)]
    | some (.datatype d) => return [p.literal s (some d) none]
    | none => return [p.literal s none none]
  | .array items => ofItems c p coercion items
  | .object fs =>
    match Json.Fields.get? fs "@value" with
    | some literal => do return [← valueObject c p literal fs]
    | none =>
      if Json.Fields.has fs "@list" then ofKey c p coercion "@list" fs
      else if Json.Fields.has fs "@set" then ofKey c p coercion "@set" fs
      else if isReference fs then do
        let id := ((Json.Fields.get? fs "@id").bind Json.asString?).getD ""
        return [p.link (← nodeIri c id)]
      else do
        let h ← header c p.graph fs
        let sts ← ofFields h.context h.iri h.graph fs
        return sts ++ [p.link h.iri]

/-- The statements of several values of a property. -/
def ofItems (c : Context) (p : Place) (coercion : Option Coercion) :
    List Json → Naming (List Statement)
  | [] => return []
  | v :: vs => do
    let sts ← ofValue c p coercion v
    let rest ← ofItems c p coercion vs
    return sts ++ rest

/-- The statements of the value that a key has among the fields of a list or set object. -/
def ofKey (c : Context) (p : Place) (coercion : Option Coercion) (key : String) :
    List (String × Json) → Naming (List Statement)
  | [] => return []
  | (k, v) :: fs => if k = key then ofValue c p coercion v else ofKey c p coercion key fs

/-- The statements of the fields of a node, in the order of the keys. -/
def ofFields (c : Context) (subject graph : String) :
    List (String × Json) → Naming (List Statement)
  | [] => return []
  | (k, v) :: fs => do
    let sts ←
      if k = "@type" then typeStatements c subject graph v.asItems
      else if k = "@graph" then ofChildren c graph v
      else if isKeyword k then pure []
      else ofValue c ⟨subject, c.expandTerm k, graph⟩ (c.coercion? k) v
    let rest ← ofFields c subject graph fs
    return sts ++ rest

/-- The statements of what a graph holds. -/
def ofChildren (c : Context) (graph : String) : Json → Naming (List Statement)
  | .array items => ofChildList c graph items
  | .object fs => do
    let h ← header c graph fs
    ofFields h.context h.iri h.graph fs
  | v => throw (.badGraphEntry v)

/-- The statements of several objects in a graph. -/
def ofChildList (c : Context) (graph : String) : List Json → Naming (List Statement)
  | [] => return []
  | .object fs :: vs => do
    let h ← header c graph fs
    let sts ← ofFields h.context h.iri h.graph fs
    let rest ← ofChildList c graph vs
    return sts ++ rest
  | v :: _ => throw (.badGraphEntry v)

end

/-! ### Documents -/

/-- The statements of a node. -/
def ofNode (c : Context) (fs : Json.Fields) : Naming (List Statement) := do
  let h ← header c Vocabulary.defaultGraph fs
  ofFields h.context h.iri h.graph fs

/-- The statements of several nodes. -/
def ofNodes (c : Context) : List Json.Fields → Naming (List Statement)
  | [] => return []
  | fs :: rest => do
    let sts ← ofNode c fs
    let more ← ofNodes c rest
    return sts ++ more

/-- The fields of an object at the top of a document. -/
def topLevel : Json → Except Fault Json.Fields
  | .object fs => .ok fs
  | v => .error (.notNode v)

/-- The statements of the objects of a document. -/
def ofTopLevel (c : Context) : List Json → Naming (List Statement)
  | [] => return []
  | v :: vs => do
    let sts ← ofNode c (← topLevel v)
    let rest ← ofTopLevel c vs
    return sts ++ rest

/-- The statements of a document: an object, or an array of objects. -/
def ofDocument (c : Context) : Json → Naming (List Statement)
  | .array items => ofTopLevel c items
  | .object fs => ofNode c fs
  | v => throw (.notDocument v)

/-- The statements of a document that stands for itself, and the supply that is left. -/
def readDocument (next : Nat) (v : Json) : Except Fault (List Statement) × Nat :=
  let (r, s) := (ofDocument Context.empty v).run (Skolem.start next)
  (r, s.next)

/-! ### Nodes in data -/

mutual

/-- The outermost objects with an `@id` in a value, in the order in which they occur. -/
def collectNodes : Json → List Json.Fields
  | .array items => collectItems items
  | .object fs => if Json.Fields.has fs "@id" then [fs] else collectFields fs
  | _ => []

/-- The outermost objects with an `@id` in several values. -/
def collectItems : List Json → List Json.Fields
  | [] => []
  | v :: vs => collectNodes v ++ collectItems vs

/-- The outermost objects with an `@id` in the values of fields. -/
def collectFields : List (String × Json) → List Json.Fields
  | [] => []
  | (_, v) :: fs => collectNodes v ++ collectFields fs

end

end GraphLedger.JsonLd
