import GraphLedger.Shape.Schema
import GraphLedger.Pattern.Reader
import GraphLedger.JsonLd.Context

/-!
# Shape sets

A schema is compiled for a request: its IRIs are expanded against the context of the request, and
its patterns are read. The shape set also knows which predicates the slice declares.
-/

namespace GraphLedger

/-- The side of a change that is checked. -/
inductive ShapeMode where
  | insert
  | delete
  deriving DecidableEq, Inhabited, Repr

/-- What is asked of the values of one property, expanded. -/
structure PropertyRule where
  path : String
  minCount : Option Nat
  maxCount : Option Nat
  datatype : Option String
  nodeKind : Option NodeKind
  pattern : Option Pattern
  allowed : Option (List String)
  deriving Inhabited

/-- What is asked of the nodes of a class, expanded. -/
structure NodeRule where
  targetClass : String
  closed : Bool
  properties : List PropertyRule
  deriving Inhabited

/-- The shapes of a slice, expanded. -/
structure ShapeSet where
  sliceId : String
  mode : ShapeMode
  closed : Bool
  rules : List NodeRule
  deriving Inhabited

/-- A pattern in a schema that cannot be read. -/
structure BadPattern where
  path : String
  sliceId : String
  fault : Pattern.Fault
  deriving DecidableEq, Repr

namespace BadPattern

/-- The wording of the fault. -/
def message (e : BadPattern) : String :=
  "invalid pattern for '" ++ e.path ++ "' in slice '" ++ e.sliceId ++ "': " ++ e.fault.message

/-- The fault as the failure of a step. -/
def toFailure (e : BadPattern) : Failure := .validation e.message

end BadPattern

/-- The pattern of a property shape. -/
def PropertyShape.readPattern (sliceId : String) (p : PropertyShape) :
    Except BadPattern (Option Pattern) :=
  match p.pattern with
  | none => .ok none
  | some text =>
    match Pattern.read text with
    | .ok q => .ok (some q)
    | .error e => .error ⟨p.path, sliceId, e⟩

/-- A property shape, expanded. -/
def PropertyShape.compile (sliceId : String) (c : JsonLd.Context) (p : PropertyShape) :
    Except BadPattern PropertyRule :=
  (p.readPattern sliceId).map fun pattern =>
    ⟨c.expandTerm p.path, p.minCount, p.maxCount, p.datatype.map c.expandTerm, p.nodeKind, pattern,
      p.allowed.map fun vs => vs.map c.expandTerm⟩

/-- A node shape, expanded. -/
def NodeShape.compile (sliceId : String) (c : JsonLd.Context) (s : NodeShape) :
    Except BadPattern NodeRule :=
  (s.properties.mapM (PropertyShape.compile sliceId c)).map fun ps =>
    ⟨c.expandTerm s.targetClass, s.closed, ps⟩

/-- A schema, expanded for one side of a change. -/
def Schema.compile (s : Schema) (c : JsonLd.Context) (mode : ShapeMode) :
    Except BadPattern ShapeSet :=
  (s.shapes.mapM (NodeShape.compile s.id c)).map fun rules => ⟨s.id, mode, s.closed, rules⟩

namespace ShapeSet

/-- The predicates that the shapes name. -/
def paths (s : ShapeSet) : List String :=
  s.rules.flatMap fun r => r.properties.map PropertyRule.path

/-- Whether the slice declares a predicate; the one for types always is. -/
def declares (s : ShapeSet) (predicate : String) : Bool :=
  predicate = Vocabulary.rdfType || s.paths.contains predicate

end ShapeSet

end GraphLedger
