import GraphLedger.Json.Printer
import GraphLedger.Text.Blank
import GraphLedger.Time.Instant
import GraphLedger.Ulid

/-!
# Change requests

A change request says what its sender wants: entries to insert and to delete, or references to
documents whose statements are inserted or deleted as a whole; assertions that must hold first; and
a query whose answer the template entries are rendered against. A request is built step by step or
read from JSON; `Request.fault?` says whether it can be processed.
-/

namespace GraphLedger

/-! ### Parts of a request -/

/-- What an assertion expects of its query. -/
inductive AssertionKind where
  | emptyResult
  | nonEmptyResult
  | unrecognized (name : String)
  deriving DecidableEq, Inhabited, Repr

namespace AssertionKind

/-- The kind of a name. -/
def ofName (s : String) : AssertionKind :=
  if s = "AssertEmptyResult" then .emptyResult
  else if s = "AssertNonEmptyResult" then .nonEmptyResult
  else .unrecognized s

/-- The name of a kind. -/
def name : AssertionKind → String
  | .emptyResult => "AssertEmptyResult"
  | .nonEmptyResult => "AssertNonEmptyResult"
  | .unrecognized s => s

end AssertionKind

/-- A query and what its result must be for the request to go on. -/
structure Assertion where
  kind : AssertionKind
  query : String
  deriving DecidableEq, Inhabited, Repr

/-- What is inserted or deleted: a node, or a template for nodes. -/
inductive Entry where
  | template (text : String)
  | node (fields : Json.Fields)
  deriving DecidableEq, Inhabited

namespace Entry

/-- The template that stands for every node of the query's answer. -/
def wildcard : String := "*"

/-- Whether an entry stands for every node of the query's answer. -/
def isWildcard : Entry → Bool
  | .template t => Text.trim t == wildcard
  | .node _ => false

/-- Whether an entry needs the answer of the query. -/
def needsBindings : Entry → Bool
  | .template _ => true
  | .node _ => false

end Entry

/-- A document outside the request, with the name of its format if it is given. -/
structure Reference where
  uri : String
  format : Option String
  deriving DecidableEq, Inhabited, Repr

/-! ### Requests -/

/-- Why a request is refused. -/
inductive RequestFault where
  | emptyPodId
  | invalidId (id : String)
  | badEntry (value : Json)
  | emptySliceId
  | nothingToDo
  | entriesAndReferences
  | templateWithoutQuery
  deriving DecidableEq, Inhabited

/-- The wording of a fault. -/
def RequestFault.message : RequestFault → String
  | .emptyPodId => "podId must not be empty"
  | .invalidId id => "id '" ++ id ++ "' is not a valid ULID"
  | .badEntry v => "entry must be a template string or a node object, found " ++ v.compact
  | .emptySliceId => "sliceId must not be empty"
  | .nothingToDo =>
    "at least one of insert, delete, insertFromRefs or deleteFromRefs is required"
  | .entriesAndReferences =>
    "insertFromRefs/deleteFromRefs cannot be combined with insert/delete"
  | .templateWithoutQuery => "template entries in insert/delete require a 'with' query"

/-- A change request. What was refused while it was built is kept beside its fields. -/
structure Request where
  id : String
  context : Json
  podId : String
  sliceId : Option String
  assertions : List Assertion
  query : Option String
  insert : List Entry
  delete : List Entry
  insertFromRefs : List Reference
  deleteFromRefs : List Reference
  rejected : List RequestFault
  deriving DecidableEq, Inhabited

namespace Entry

/-- The entry that one value writes. -/
def ofValue : Json → Except RequestFault Entry
  | .string s => .ok (.template s)
  | .object fs => .ok (.node fs)
  | v => .error (.badEntry v)

/-- The entries that a value writes, one for each item of an array. -/
def ofJson : Json → Except RequestFault (List Entry)
  | .array items => items.mapM ofValue
  | v => (ofValue v).map fun e => [e]

end Entry

namespace Request

/-! ### Building -/

/-- The request that does nothing yet. -/
def new (id podId : String) : Request :=
  ⟨id, .object [], podId, none, [], none, [], [], [], [], []⟩

/-- Sets the context. -/
def withContext (r : Request) (context : Json) : Request := { r with context := context }

/-- Binds the request to a slice. -/
def withSlice (r : Request) (sliceId : String) : Request := { r with sliceId := some sliceId }

/-- Adds an assertion. -/
def withAssertion (r : Request) (a : Assertion) : Request :=
  { r with assertions := r.assertions ++ [a] }

/-- Sets the query. -/
def withQuery (r : Request) (query : String) : Request := { r with query := some query }

/-- Adds entries to insert, or keeps what is wrong with the value. -/
def withInsert (r : Request) (v : Json) : Request :=
  match Entry.ofJson v with
  | .ok es => { r with insert := r.insert ++ es }
  | .error e => { r with rejected := r.rejected ++ [e] }

/-- Adds entries to delete, or keeps what is wrong with the value. -/
def withDelete (r : Request) (v : Json) : Request :=
  match Entry.ofJson v with
  | .ok es => { r with delete := r.delete ++ es }
  | .error e => { r with rejected := r.rejected ++ [e] }

/-- Adds a document to insert. -/
def withInsertRef (r : Request) (ref : Reference) : Request :=
  { r with insertFromRefs := r.insertFromRefs ++ [ref] }

/-- Adds a document to delete. -/
def withDeleteRef (r : Request) (ref : Reference) : Request :=
  { r with deleteFromRefs := r.deleteFromRefs ++ [ref] }

/-! ### Questions -/

/-- Whether some entry needs the answer of the query. -/
def hasTemplates (r : Request) : Bool := (r.insert ++ r.delete).any Entry.needsBindings

/-- Whether the request has entries. -/
def hasEntries (r : Request) : Bool := !r.insert.isEmpty || !r.delete.isEmpty

/-- Whether the request has references. -/
def hasRefs (r : Request) : Bool := !r.insertFromRefs.isEmpty || !r.deleteFromRefs.isEmpty

/-- The time in the identifier of the request. -/
def queuedAt? (r : Request) : Option Instant :=
  (Ulid.decode? r.id).map fun n => Instant.ofMilliseconds (Ulid.milliseconds n)

/-- Whether the slice is given and blank. -/
def hasBlankSlice (r : Request) : Bool :=
  match r.sliceId with
  | some s => Text.allBlank s
  | none => false

/-- The first reason to refuse the request. -/
def fault? (r : Request) : Option RequestFault :=
  if Text.allBlank r.podId then some .emptyPodId
  else if !Ulid.isValid r.id then some (.invalidId r.id)
  else
    match r.rejected with
    | e :: _ => some e
    | [] =>
      if r.hasBlankSlice then some .emptySliceId
      else if !r.hasEntries && !r.hasRefs then some .nothingToDo
      else if r.hasEntries && r.hasRefs then some .entriesAndReferences
      else if r.hasTemplates && r.query.isNone then some .templateWithoutQuery
      else none

end Request

end GraphLedger
