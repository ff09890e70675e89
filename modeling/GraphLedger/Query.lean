import GraphLedger.Failure

/-!
# Queries

Assertions and templates put queries to an engine, which answers with data or with errors. The
engine is a function from the text of the query; a table of fixed answers is one, in which queries
that differ in blanks only are the same.
-/

namespace GraphLedger

/-- The answer to a query. -/
structure QueryResponse where
  data : Option Json
  errors : List String
  deriving DecidableEq, Inhabited

/-- What answers queries; it may fail without an answer. -/
abbrev QueryEngine := String → Except Failure QueryResponse

namespace QueryResponse

/-- The answer that consists of an error. -/
def ofError (message : String) : QueryResponse := ⟨none, [message]⟩

/-- The data of an answer without errors, null if there is none. -/
def toData (r : QueryResponse) : Except Failure Json :=
  if r.errors.isEmpty then .ok (r.data.getD .null)
  else .error (.query ("; ".intercalate r.errors))

/-! ### In JSON -/

/-- The fields of an error in an answer. -/
def errorLayout : Json.Layout := [["message"]]

/-- The message of an error in an answer. -/
def errorOfJson? (v : Json) : Option String := do
  match ← Json.fieldsOf? errorLayout v with
  | [message] => Json.required Json.decodeString message
  | _ => none

/-- The fields of an answer. -/
def layout : Json.Layout := [["data"], ["errors"]]

/-- The answer that JSON writes. -/
def ofJson? (v : Json) : Option QueryResponse := do
  match ← Json.fieldsOf? layout v with
  | [data, errors] =>
    let data ← Json.optional Json.decodeAny data
    let errors ← Json.orDefault [] (Json.decodeList errorOfJson?) errors
    some ⟨data, errors⟩
  | _ => none

/-- An answer as JSON; errors are left out if there are none. -/
def toJson (r : QueryResponse) : Json :=
  let errors := r.errors.map fun m => Json.object [("message", .string m)]
  Json.ofFields [("data", some (r.data.getD .null)),
    ("errors", if errors.isEmpty then none else some (.array errors))]

end QueryResponse

/-! ### Results -/

/-- Whether a row has bindings. -/
def isBoundRow : Json → Bool
  | .object [] => false
  | _ => true

/-- Whether the value of a field of the data is a result. -/
def isResultField : Json → Bool
  | .null => false
  | .array rows => rows.any isBoundRow
  | .object [] => false
  | _ => true

/-- Whether data has results: rows with bindings, at the top or in a field. -/
def hasResults : Json → Bool
  | .null => false
  | .array rows => rows.any isBoundRow
  | .object fs => fs.any fun f => isResultField f.2
  | _ => true

/-! ### Fixed answers -/

/-- A table of answers, its queries with single blanks. -/
structure QueryFixtures where
  table : List (String × QueryResponse)
  deriving Inhabited

namespace QueryFixtures

/-- The table without answers. -/
def empty : QueryFixtures := ⟨[]⟩

/-- Gives a query an answer. -/
def insert (t : QueryFixtures) (query : String) (r : QueryResponse) : QueryFixtures :=
  let key := Text.collapse query
  ⟨(key, r) :: t.table.filter fun p => p.1 != key⟩

/-- The answers that the fields of an object write. -/
def ofEntries? : Json.Fields → Option (List (String × QueryResponse))
  | [] => some []
  | (q, v) :: fs => do
    let r ← QueryResponse.ofJson? v
    let rest ← ofEntries? fs
    some ((q, r) :: rest)

/-- The table that JSON writes. -/
def ofJson (v : Json) : Except Failure QueryFixtures :=
  match v with
  | .object fs =>
    match ofEntries? fs with
    | some entries => .ok (entries.foldl (fun t e => t.insert e.1 e.2) empty)
    | none => .error (.json "the table of answers has an answer that does not fit")
  | _ => .error (.json "the table of answers is no object")

/-- The engine that looks queries up. -/
def engine (t : QueryFixtures) : QueryEngine := fun query =>
  let key := Text.collapse query
  match t.table.lookup key with
  | some r => .ok r
  | none => .ok (.ofError ("unknown query: " ++ key))

end QueryFixtures

end GraphLedger
