import GraphLedger.Proofs.JsonLd.Naming

/-! # The leaves of a node

A node is a tree of JSON values, and its *leaves* are what makes one statement each: an entry of
`@type`, and what is reached under a property through arrays, lists and sets, be it a scalar, a
value object, a reference or a node. An object is a value object, a list or a set by the first of
`@value`, `@list` and `@set` that it has.

The statement of a leaf is told by the objects around it, taken from the innermost on, of which each
has a name: the innermost gives the subject, their contexts together give the predicate, and the
innermost that only names a graph gives the graph.

* `nodeLeaves`: all leaves of a node, each with the objects around it.
* `contextIn`, `graphIn`, `subjectIn`: what the objects around a leaf say.
* `Assigned`: whether the names of these objects are what they should be.
* `Leaf.Makes`: whether a statement is that of a leaf. -/

namespace GraphLedger.JsonLd

/-! ### Objects with names -/

/-- What an object is named by: an IRI that it is given by its `@id` or by the graph around it, or a
number for which an IRI is minted. -/
inductive Name where
  | given (iri : String)
  | minted (n : Nat)

/-- The IRI of a name. -/
def Name.iri : Name → String
  | .given iri => iri
  | .minted n => Skolem.minted n

/-- The names of the objects in a value, in a tree of the same shape. -/
inductive Names where
  | nothing
  | both (first rest : Names)
  | object (name : Name) (inside : Names)

namespace Names

/-- The name of an object. -/
def name : Names → Name
  | .object name _ => name
  | _ => .given ""

/-- The names inside an object. -/
def inside : Names → Names
  | .object _ inside => inside
  | _ => .nothing

/-- The names in the first of several values. -/
def first : Names → Names
  | .both first _ => first
  | _ => .nothing

/-- The names in all values but the first. -/
def rest : Names → Names
  | .both _ rest => rest
  | _ => .nothing

/-- The numbers for which IRIs are minted. -/
def numbers : Names → List Nat
  | .nothing => []
  | .both first rest => first.numbers ++ rest.numbers
  | .object (.given _) inside => inside.numbers
  | .object (.minted n) inside => n :: inside.numbers

/-- Whether no two objects are named by one number, and all numbers are from a range. -/
structure Fresh (names : Names) (low high : Nat) : Prop where
  nodup : names.numbers.Nodup
  bounds : ∀ n ∈ names.numbers, low ≤ n ∧ n < high

end Names

/-- An object with its name. -/
structure Level where
  fields : Json.Fields
  name : Name

namespace Level

/-- The IRI of an object. -/
def iri (l : Level) : String := l.name.iri

/-- Whether an object names the graph of what it holds. -/
def namesGraph (l : Level) : Bool := isContainer l.fields && Json.Fields.has l.fields "@id"

end Level

/-! ### Leaves -/

/-- What makes one statement, with the objects around it from the innermost on: an entry of `@type`,
what is no node and is reached under a property, or a node that is. -/
inductive Leaf where
  | type (around : List Level) (entry : Json)
  | value (around : List Level) (key : String) (value : Json)
  | node (around : List Level) (key : String) (nested : Level)

namespace Leaf

/-- The objects around a leaf. -/
def around : Leaf → List Level
  | .type around _ => around
  | .value around _ _ => around
  | .node around _ _ => around

/-- The objects around a leaf, with the leaf itself if it is a node. -/
def chain : Leaf → List Level
  | .node around _ nested => nested :: around
  | leaf => leaf.around

end Leaf

mutual

/-- The leaves of the value of a property. -/
def valueLeaves (around : List Level) (key : String) (names : Names) : Json → List Leaf
  | .null => []
  | .array items => itemLeaves around key names items
  | .object fs =>
    match Json.Fields.get? fs "@value" with
    | some _ => [.value around key (.object fs)]
    | none =>
      if Json.Fields.has fs "@list" then keyLeaves around key names "@list" fs
      else if Json.Fields.has fs "@set" then keyLeaves around key names "@set" fs
      else if isReference fs then [.value around key (.object fs)]
      else
        fieldLeaves (⟨fs, names.name⟩ :: around) names.inside fs
          ++ [.node around key ⟨fs, names.name⟩]
  | v => [.value around key v]

/-- The leaves of several values of a property. -/
def itemLeaves (around : List Level) (key : String) (names : Names) : List Json → List Leaf
  | [] => []
  | v :: vs => valueLeaves around key names.first v ++ itemLeaves around key names.rest vs

/-- The leaves of the value that a keyword has in a list or set object. -/
def keyLeaves (around : List Level) (key : String) (names : Names) (keyword : String) :
    List (String × Json) → List Leaf
  | [] => []
  | (k, v) :: fs =>
    if k = keyword then valueLeaves around key names v else keyLeaves around key names keyword fs

/-- The leaves of the fields of the innermost object. -/
def fieldLeaves (around : List Level) (names : Names) : List (String × Json) → List Leaf
  | [] => []
  | (k, v) :: fs =>
    (if k = "@type" then v.asItems.map (.type around)
      else if k = "@graph" then childLeaves around names.first v
      else if isKeyword k then []
      else valueLeaves around k names.first v)
      ++ fieldLeaves around names.rest fs

/-- The leaves of what a graph holds. -/
def childLeaves (around : List Level) (names : Names) : Json → List Leaf
  | .array items => childListLeaves around names items
  | .object fs => fieldLeaves (⟨fs, names.name⟩ :: around) names.inside fs
  | _ => []

/-- The leaves of several objects in a graph. -/
def childListLeaves (around : List Level) (names : Names) : List Json → List Leaf
  | [] => []
  | .object fs :: vs =>
    fieldLeaves (⟨fs, names.first.name⟩ :: around) names.first.inside fs
      ++ childListLeaves around names.rest vs
  | _ :: vs => childListLeaves around names.rest vs

end

/-- **The leaves of a node.** -/
def nodeLeaves (names : Names) (fs : Json.Fields) : List Leaf :=
  fieldLeaves [⟨fs, names.name⟩] names.inside fs

/-! ### What the objects around say -/

/-- The context inside objects: the outermost one changes the given context first. -/
def contextIn (c : Context) : List Level → Except Fault Context
  | [] => .ok c
  | l :: around => (contextIn c around).bind fun c => innerContext c l.fields

/-- The graph inside objects: that of the innermost one that names a graph, or the given one. -/
def graphIn (graph : String) (around : List Level) : String :=
  ((around.find? Level.namesGraph).map Level.iri).getD graph

/-- The IRI of the innermost object. -/
def subjectIn (around : List Level) : String := (around.head?.map Level.iri).getD ""

theorem graphIn_cons (graph : String) (l : Level) (around : List Level) :
    graphIn graph (l :: around) = if l.namesGraph then l.iri else graphIn graph around := by
  unfold graphIn
  rw [List.find?_cons]
  cases l.namesGraph <;> rfl

/-- Whether an object has the name that it should have in a context and graph: the IRI of its
`@id`; that of the graph around, if it names none; or else one that is minted. -/
def Level.Named (l : Level) (c : Context) (graph : String) (s : Skolem) : Prop :=
  match Json.Fields.get? l.fields "@id" with
  | some (.string id) => ∃ iri, s.iriOf? c id = some iri ∧ l.name = .given iri
  | some _ => False
  | none => if isContainer l.fields then l.name = .given graph else ∃ n, l.name = .minted n

section Around
variable (c : Context) (graph : String) (s : Skolem)

/-- Whether objects, each around the one before it, have the names that they should have. -/
def Assigned : List Level → Prop
  | [] => True
  | l :: around =>
    (∃ inner, contextIn c (l :: around) = .ok inner ∧ l.Named inner (graphIn graph around) s) ∧
      Assigned around

/-! ### The statement of a leaf -/

/-- The statement of a leaf that is no node and no entry of `@type`. -/
def valueStatement? (c : Context) (s : Skolem) (p : Place) (coercion : Option Coercion) :
    Json → Option Statement
  | .null => none
  | .array _ => none
  | .bool b => some (p.literal (Json.bool b).compact (some Vocabulary.xsdBoolean) none)
  | .int n =>
    some (p.literal (Json.int n).compact (some (numberType coercion Vocabulary.xsdInteger)) none)
  | .float x =>
    some (p.literal (Json.float x).compact (some (numberType coercion Vocabulary.xsdDouble)) none)
  | .string v =>
    match coercion with
    | some .id => (s.iriOf? c v).map p.link
    | some (.datatype d) => some (p.literal v (some d) none)
    | none => some (p.literal v none none)
  | .object fs =>
    match Json.Fields.get? fs "@value" with
    | some literal => (valueObject c p literal fs).toOption
    | none => (s.iriOf? c (((Json.Fields.get? fs "@id").bind Json.asString?).getD "")).map p.link

namespace Leaf

/-- The property of the statement of a leaf. -/
def predicate (c : Context) : Leaf → String
  | .type _ _ => Vocabulary.rdfType
  | .value _ key _ => c.expandTerm key
  | .node _ key _ => c.expandTerm key

/-- The statement of a leaf at a place. -/
def statement? (c : Context) (s : Skolem) (p : Place) : Leaf → Option Statement
  | .type _ entry => entry.asString?.map fun t => p.link (c.expandTerm t)
  | .value _ key v => valueStatement? c s p (c.coercion? key) v
  | .node _ _ nested => some (p.link nested.iri)

/-- **The statement of a leaf**: its subject is the IRI of the innermost object around the leaf, its
predicate is the type of that object or what its property is expanded to in the context inside that
object, and its graph is that of the innermost object that names one. -/
structure Makes (leaf : Leaf) (st : Statement) : Prop where
  assigned : Assigned c graph s leaf.chain
  subject : st.subject = subjectIn leaf.around
  graph : st.graph = graphIn graph leaf.around
  predicate : ∃ inner, contextIn c leaf.around = .ok inner ∧ st.predicate = leaf.predicate inner ∧
    leaf.statement? inner s ⟨st.subject, st.predicate, st.graph⟩ = some st

end Leaf

end Around

end GraphLedger.JsonLd
