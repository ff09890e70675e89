import GraphLedger.Buffer

/-!
# Storage backends

A backend keeps a log of records for each pod. It claims records from the buffer of a request,
appends them to the log of the request's pod, and removes them from the buffer, so that each record
is stored once. A backend claims everything, or all records of the subjects that some record gives a
certain property. Records are only ever appended, and taken back by request.
-/

namespace GraphLedger

/-! ### Claims -/

/-- Which records of a buffer a backend claims. -/
inductive ClaimSelector where
  | all
  | subjectsWith (predicate : String)
  deriving DecidableEq, Inhabited, Repr

namespace ClaimSelector

/-- Whether every record is claimed. -/
def claimsAll : ClaimSelector → Bool
  | .all => true
  | .subjectsWith _ => false

/-- The selector of a configuration. -/
def ofPredicate? : Option String → ClaimSelector
  | some p => .subjectsWith p
  | none => .all

/-- The records that are claimed, in the order of the buffer. -/
def select (s : ClaimSelector) (b : Buffer) : List Record :=
  match s with
  | .all => b.contents
  | .subjectsWith p =>
    let subjects := (b.collect (.ofPredicate p)).map fun r => r.statement.subject
    b.contents.filter fun r => subjects.contains r.statement.subject

/-- How a selector is shown. -/
def display : ClaimSelector → String
  | .all => "All"
  | .subjectsWith p => "SubjectsWithPredicate(" ++ Text.Quoted.encode p ++ ")"

end ClaimSelector

/-! ### Reading the log -/

/-- Which stored records are wanted, and from where on. -/
structure RecordsQuery where
  podId : String
  changeRequestId : Option String
  filter : RecordFilter
  cursor : Option String
  limit : Nat
  deriving DecidableEq, Inhabited, Repr

namespace RecordsQuery

/-- The number of records of a page if nothing else is said. -/
def defaultLimit : Nat := 100

/-- The query for all records of a pod. -/
def ofPod (podId : String) : RecordsQuery := ⟨podId, none, .any, none, defaultLimit⟩

/-- Whether a record is wanted. -/
def accepts (q : RecordsQuery) (r : Record) : Bool :=
  RecordFilter.agrees q.changeRequestId r.changeRequestId && q.filter.accepts r

end RecordsQuery

/-! ### The log -/

/-- The records of each pod in the order in which they were stored. -/
abbrev RecordLog := List (String × List Record)

namespace RecordLog

/-- The records of a pod. -/
def ofPod (log : RecordLog) (podId : String) : List Record := (log.lookup podId).getD []

/-- Appends records to those of a pod. -/
def append (podId : String) (rs : List Record) : RecordLog → RecordLog
  | [] => [(podId, rs)]
  | (p, old) :: rest =>
    if p = podId then (p, old ++ rs) :: rest else (p, old) :: append podId rs rest

/-- Takes the records of a request back from those of a pod. -/
def withdraw (podId requestId : String) (log : RecordLog) : RecordLog :=
  log.map fun (p, rs) =>
    if p = podId then (p, rs.filter fun r => r.changeRequestId != requestId) else (p, rs)

/-- The number of all records. -/
def size (log : RecordLog) : Nat := log.foldl (fun n p => n + p.2.length) 0

end RecordLog

/-- A store of records in memory. -/
structure Backend where
  id : String
  selector : ClaimSelector
  log : RecordLog
  deriving DecidableEq, Inhabited, Repr

namespace Backend

/-- A store that holds nothing yet. -/
def new (id : String) (selector : ClaimSelector) : Backend := ⟨id, selector, []⟩

/-- Stores what is claimed of a buffer; both as they are afterwards. -/
def commit (s : Backend) (b : Buffer) : Backend × Buffer :=
  let claimed := s.selector.select b
  if claimed.isEmpty then (s, b)
  else ({ s with log := s.log.append b.request.podId claimed }, b.remove claimed true)

/-- The wanted records in the order in which they were stored. -/
def stream (s : Backend) (q : RecordsQuery) : List Record := (s.log.ofPod q.podId).filter q.accepts

/-- A page of the wanted records. -/
def get (s : Backend) (q : RecordsQuery) : Except Cursor.Fault (Page Record) :=
  Page.ofItems (s.stream q) q.cursor q.limit

/-- The number of records of a pod. -/
def podSize (s : Backend) (podId : String) : Nat := (s.log.ofPod podId).length

/-- Takes the records of a request back. -/
def rollback (s : Backend) (podId requestId : String) : Backend :=
  { s with log := s.log.withdraw podId requestId }

/-- The number of records that taking a request back removes. -/
def rollbackCount (s : Backend) (podId requestId : String) : Nat :=
  s.podSize podId - (s.rollback podId requestId).podSize podId

/-- How a store is shown. -/
def display (s : Backend) : String :=
  "MemoryBackend \x7b id: " ++ Text.Quoted.encode s.id ++ ", selector: " ++ s.selector.display
    ++ ", pod_count: " ++ toString s.log.length ++ ", record_count: " ++ toString s.log.size
    ++ " \x7d"

end Backend

end GraphLedger
