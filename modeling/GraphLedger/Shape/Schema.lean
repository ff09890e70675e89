import GraphLedger.Json.Outline
import GraphLedger.Statement

/-!
# Schemas

The schema of a slice declares shapes: for the nodes of a class, which properties they have and what
values these may take. Its IRIs may be compact.
-/

namespace GraphLedger

/-- Whether the values of a property are nodes or literals. -/
inductive NodeKind where
  | iri
  | literal
  deriving DecidableEq, Inhabited, Repr

namespace NodeKind

/-- The code of a kind in a schema. -/
def code : NodeKind → String
  | .iri => "IRI"
  | .literal => "Literal"

/-- The name of a kind in a message. -/
def name : NodeKind → String
  | .iri => "Iri"
  | .literal => "Literal"

/-- The kind of a code. -/
def ofCode? (s : String) : Option NodeKind :=
  if s = "IRI" then some .iri else if s = "Literal" then some .literal else none

/-- Whether an object is of a kind. -/
def admits : NodeKind → Object → Bool
  | .iri, o => o.isIri
  | .literal, o => !o.isIri

end NodeKind

/-- What is asked of the values of one property; what is not given does not matter. -/
structure PropertyShape where
  path : String
  minCount : Option Nat
  maxCount : Option Nat
  datatype : Option String
  nodeKind : Option NodeKind
  pattern : Option String
  allowed : Option (List String)
  deriving DecidableEq, Inhabited, Repr

/-- What is asked of the nodes of a class; a closed shape lets them have no other properties. -/
structure NodeShape where
  targetClass : String
  closed : Bool
  properties : List PropertyShape
  deriving DecidableEq, Inhabited, Repr

/-- The shapes of a slice; a closed slice has no properties that no shape declares. -/
structure Schema where
  id : String
  closed : Bool
  shapes : List NodeShape
  deriving DecidableEq, Inhabited, Repr

/-! ### In JSON -/

namespace PropertyShape

/-- The fields of a property shape. -/
def layout : Json.Layout :=
  [["path"], ["minCount"], ["maxCount"], ["datatype"], ["nodeKind"], ["pattern"], ["in"]]

/-- A property shape as JSON. -/
def toJson (p : PropertyShape) : Json :=
  Json.ofFields [("path", some (.string p.path)),
    ("minCount", p.minCount.map fun n => .int n), ("maxCount", p.maxCount.map fun n => .int n),
    ("datatype", p.datatype.map .string),
    ("nodeKind", p.nodeKind.map fun k => .string k.code), ("pattern", p.pattern.map .string),
    ("in", p.allowed.map fun vs => .array (vs.map .string))]

/-- The kind that JSON writes. -/
def kindOfJson? (v : Json) : Option NodeKind := (Json.decodeName v).bind NodeKind.ofCode?

/-- The property shape that JSON writes. -/
def ofJson? (v : Json) : Option PropertyShape := do
  match ← Json.fieldsOf? layout v with
  | [path, minCount, maxCount, datatype, nodeKind, pattern, allowed] =>
    let path ← Json.required Json.decodeString path
    let minCount ← Json.optional Json.decodeCount minCount
    let maxCount ← Json.optional Json.decodeCount maxCount
    let datatype ← Json.optional Json.decodeString datatype
    let nodeKind ← Json.optional kindOfJson? nodeKind
    let pattern ← Json.optional Json.decodeString pattern
    let allowed ← Json.optional (Json.decodeList Json.decodeString) allowed
    some ⟨path, minCount, maxCount, datatype, nodeKind, pattern, allowed⟩
  | _ => none

end PropertyShape

namespace NodeShape

/-- The fields of a node shape. -/
def layout : Json.Layout := [["targetClass"], ["closed"], ["properties"]]

/-- A node shape as JSON. -/
def toJson (s : NodeShape) : Json :=
  .object [("targetClass", .string s.targetClass), ("closed", .bool s.closed),
    ("properties", .array (s.properties.map PropertyShape.toJson))]

/-- The node shape that JSON writes. -/
def ofJson? (v : Json) : Option NodeShape := do
  match ← Json.fieldsOf? layout v with
  | [targetClass, closed, properties] =>
    let targetClass ← Json.required Json.decodeString targetClass
    let closed ← Json.orDefault false Json.decodeBool closed
    let properties ← Json.orDefault [] (Json.decodeList PropertyShape.ofJson?) properties
    some ⟨targetClass, closed, properties⟩
  | _ => none

end NodeShape

namespace Schema

/-- The fields of a schema. -/
def layout : Json.Layout := [["id"], ["closed"], ["shapes"]]

/-- A schema as JSON. -/
def toJson (s : Schema) : Json :=
  .object [("id", .string s.id), ("closed", .bool s.closed),
    ("shapes", .array (s.shapes.map NodeShape.toJson))]

/-- The schema that JSON writes. -/
def ofJson? (v : Json) : Option Schema := do
  match ← Json.fieldsOf? layout v with
  | [id, closed, shapes] =>
    let id ← Json.required Json.decodeString id
    let closed ← Json.orDefault false Json.decodeBool closed
    let shapes ← Json.orDefault [] (Json.decodeList NodeShape.ofJson?) shapes
    some ⟨id, closed, shapes⟩
  | _ => none

/-- What is wanted of a schema. -/
def outline : Json.Outline :=
  let property := Json.Outline.ofLayout PropertyShape.layout
  let shape := (Json.Outline.ofLayout NodeShape.layout).refine "properties" (.items property)
  (Json.Outline.ofLayout layout).refine "shapes" (.items shape)

/-- The schema that a text writes; why it writes none otherwise. -/
def read (text : String) : Except String Schema := Json.decodeText outline ofJson? text

end Schema

end GraphLedger
