import GraphLedger.Request.Basic
import GraphLedger.Json.Outline

/-!
# Requests in JSON

The form in which requests are sent. A list may be written as a list, as its only item, or not at
all; it is always written out as a list. What has no value is left out.
-/

namespace GraphLedger

/-! ### Writing -/

/-- An assertion as JSON. -/
def Assertion.toJson (a : Assertion) : Json :=
  .object [("type", .string a.kind.name), ("query", .string a.query)]

/-- An entry as JSON. -/
def Entry.toJson : Entry → Json
  | .template t => .string t
  | .node fs => .object fs

/-- A reference as JSON. -/
def Reference.toJson (r : Reference) : Json :=
  Json.ofFields [("uri", some (.string r.uri)), ("format", r.format.map .string)]

/-- A request as JSON. -/
def Request.toJson (r : Request) : Json :=
  Json.ofFields [("id", some (.string r.id)), ("@context", some r.context),
    ("podId", some (.string r.podId)), ("sliceId", r.sliceId.map .string),
    ("assert", some (.array (r.assertions.map Assertion.toJson))),
    ("with", r.query.map .string),
    ("insert", some (.array (r.insert.map Entry.toJson))),
    ("delete", some (.array (r.delete.map Entry.toJson))),
    ("insertFromRefs", some (.array (r.insertFromRefs.map Reference.toJson))),
    ("deleteFromRefs", some (.array (r.deleteFromRefs.map Reference.toJson)))]

/-! ### Reading -/

/-- The fields of an assertion. -/
def Assertion.layout : Json.Layout := [["type"], ["query"]]

/-- The assertion that JSON writes. -/
def Assertion.ofJson? (v : Json) : Option Assertion := do
  match ← Json.fieldsOf? Assertion.layout v with
  | [kind, query] =>
    let kind ← Json.required Json.decodeString kind
    let query ← Json.required Json.decodeString query
    some ⟨.ofName kind, query⟩
  | _ => none

/-- The entry that JSON writes. -/
def Entry.ofJson? : Json → Option Entry
  | .string s => some (.template s)
  | .object fs =>
    match (Json.object fs).canonical with
    | .object fs => some (.node fs)
    | _ => none
  | _ => none

/-- The fields of a reference. -/
def Reference.layout : Json.Layout := [["uri"], ["format"]]

/-- The reference that JSON writes. -/
def Reference.ofJson? (v : Json) : Option Reference := do
  match ← Json.fieldsOf? Reference.layout v with
  | [uri, format] =>
    let uri ← Json.required Json.decodeString uri
    let format ← Json.optional Json.decodeString format
    some ⟨uri, format⟩
  | _ => none

/-- The fields of a request. The context has a second name. -/
def Request.layout : Json.Layout :=
  [["id"], ["@context", "context"], ["podId"], ["sliceId"], ["assert"], ["with"], ["insert"],
    ["delete"], ["insertFromRefs"], ["deleteFromRefs"]]

/-- The request that JSON writes. -/
def Request.ofJson? (v : Json) : Option Request := do
  match ← Json.fieldsOf? Request.layout v with
  | [id, context, podId, sliceId, assertions, query, insert, delete, insertRefs, deleteRefs] =>
    let id ← Json.required Json.decodeString id
    let context ← Json.orDefault (.object []) Json.decodeAny context
    let podId ← Json.required Json.decodeString podId
    let sliceId ← Json.optional Json.decodeString sliceId
    let assertions ← Json.decodeOneOrMany Assertion.ofJson? assertions
    let query ← Json.optional Json.decodeString query
    let insert ← Json.decodeOneOrMany Entry.ofJson? insert
    let delete ← Json.decodeOneOrMany Entry.ofJson? delete
    let insertRefs ← Json.decodeOneOrMany Reference.ofJson? insertRefs
    let deleteRefs ← Json.decodeOneOrMany Reference.ofJson? deleteRefs
    some ⟨id, context, podId, sliceId, assertions, query, insert, delete, insertRefs, deleteRefs,
      []⟩
  | _ => none

/-- The request that a text writes; why it writes none otherwise. -/
def Request.read (text : String) : Except String Request :=
  Json.decodeText (.ofLayout Request.layout) Request.ofJson? text

end GraphLedger
