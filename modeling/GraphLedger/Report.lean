import GraphLedger.Request.Basic
import GraphLedger.Record

/-!
# Reports

A report tells what became of a request: the history of its status, how many records were stored,
and on failure the message. The history grows at its end only, and not at all once a final status is
reached.
-/

namespace GraphLedger

/-- The status of a request. -/
inductive Status where
  | queued
  | preprocessed
  | committed
  | assertionFailed
  | noMatches
  | tooManyMatches
  | validationError
  | internalError
  deriving DecidableEq, Inhabited, Repr

namespace Status

/-- All statuses. -/
def all : List Status :=
  [.queued, .preprocessed, .committed, .assertionFailed, .noMatches, .tooManyMatches,
    .validationError, .internalError]

/-- The code of a status. -/
def code : Status → String
  | .queued => "QUEUED"
  | .preprocessed => "PREPROCESSED"
  | .committed => "COMMITTED"
  | .assertionFailed => "ASSERTION_FAILED"
  | .noMatches => "NO_MATCHES"
  | .tooManyMatches => "TOO_MANY_MATCHES"
  | .validationError => "VALIDATION_ERROR"
  | .internalError => "INTERNAL_ERROR"

/-- The status of a code. -/
def ofCode? (s : String) : Option Status := all.find? fun c => c.code == s

/-- Whether nothing follows the status. -/
def isFinal : Status → Bool
  | .queued => false
  | .preprocessed => false
  | _ => true

/-- Whether the request was carried out. -/
def isSuccess (c : Status) : Bool := c = .committed

end Status

/-- How many records were stored. -/
structure Statistics where
  inserts : Nat
  deletes : Nat
  deriving DecidableEq, Inhabited, Repr

/-- The number of stored records of a type. -/
def Statistics.count (s : Statistics) : ChangeType → Nat
  | .insert => s.inserts
  | .delete => s.deletes

/-- The number of all records, as a number of 64 bits. -/
def Statistics.total (s : Statistics) : Nat := (s.inserts + s.deletes) % 0x10000000000000000

/-- A step in the history of a request. -/
structure StatusEntry where
  timestamp : Instant
  status : Status
  message : Option String
  deriving DecidableEq, Inhabited, Repr

/-- What became of a request. -/
structure Report where
  id : String
  podId : String
  sliceId : Option String
  history : List StatusEntry
  statistics : Statistics
  errorMessage : Option String
  validationReport : Option Json
  deriving DecidableEq, Inhabited

namespace Report

/-- The report of a request that waits. -/
def queued (r : Request) (time : Instant) : Report :=
  ⟨r.id, r.podId, r.sliceId, [⟨time, .queued, none⟩], ⟨0, 0⟩, none, none⟩

/-- The latest status. -/
def status (r : Report) : Status :=
  match r.history.getLast? with
  | some e => e.status
  | none => .queued

/-- Whether a final status is reached. -/
def isFinished (r : Report) : Bool := r.status.isFinal

/-- Adds a status to the history, unless it is finished. -/
def push (r : Report) (now : Instant) (status : Status) (message : Option String) : Report :=
  if r.isFinished then r else { r with history := r.history ++ [⟨now, status, message⟩] }

theorem status_push (r : Report) (now : Instant) (status : Status) (message : Option String) :
    (r.push now status message).status = if r.isFinished then r.status else status := by
  unfold push
  split
  · rfl
  · simp [Report.status]

@[simp] theorem statistics_push (r : Report) (now : Instant) (status : Status)
    (message : Option String) : (r.push now status message).statistics = r.statistics := by
  unfold push; split <;> rfl

/-- Notes the success of the request. -/
def commit (r : Report) (now : Instant) (s : Statistics) : Report :=
  { r with statistics := s }.push now .committed none

/-- Notes the failure of the request. -/
def fail (r : Report) (now : Instant) (status : Status) (message : String) : Report :=
  { r with statistics := ⟨0, 0⟩, errorMessage := some message }.push now status (some message)

end Report

/-! ### In JSON -/

/-- The fields of a status entry. -/
def StatusEntry.layout : Json.Layout := [["timestamp"], ["status"], ["message"]]

/-- A status entry as JSON. -/
def StatusEntry.toJson (e : StatusEntry) : Json :=
  Json.ofFields [("timestamp", some (.string e.timestamp.toText)),
    ("status", some (.string e.status.code)), ("message", e.message.map .string)]

/-- The status that JSON writes. -/
def Status.ofJson? (v : Json) : Option Status := (Json.decodeName v).bind Status.ofCode?

/-- The status entry that JSON writes. -/
def StatusEntry.ofJson? (v : Json) : Option StatusEntry := do
  match ← Json.fieldsOf? StatusEntry.layout v with
  | [timestamp, status, message] =>
    let timestamp ← Json.required Record.instantOfJson? timestamp
    let status ← Json.required Status.ofJson? status
    let message ← Json.optional Json.decodeString message
    some ⟨timestamp, status, message⟩
  | _ => none

/-- The fields of statistics. -/
def Statistics.layout : Json.Layout := [["nrOfInserts"], ["nrOfDeletes"]]

/-- Statistics as JSON. -/
def Statistics.toJson (s : Statistics) : Json :=
  .object [("nrOfInserts", .int s.inserts), ("nrOfDeletes", .int s.deletes)]

/-- The statistics that JSON writes. -/
def Statistics.ofJson? (v : Json) : Option Statistics := do
  match ← Json.fieldsOf? Statistics.layout v with
  | [inserts, deletes] =>
    let inserts ← Json.required Json.decodeCount inserts
    let deletes ← Json.required Json.decodeCount deletes
    some ⟨inserts, deletes⟩
  | _ => none

/-- The fields of a report. -/
def Report.layout : Json.Layout :=
  [["id"], ["podId"], ["sliceId"], ["status"], ["nrOfInserts"], ["nrOfDeletes"], ["errorMessage"],
    ["validationReport"]]

/-- A report as JSON. -/
def Report.toJson (r : Report) : Json :=
  Json.ofFields [("id", some (.string r.id)), ("podId", some (.string r.podId)),
    ("sliceId", r.sliceId.map .string),
    ("status", some (.array (r.history.map StatusEntry.toJson))),
    ("nrOfInserts", some (.int r.statistics.inserts)),
    ("nrOfDeletes", some (.int r.statistics.deletes)),
    ("errorMessage", r.errorMessage.map .string), ("validationReport", r.validationReport)]

/-- The report that JSON writes. -/
def Report.ofJson? (v : Json) : Option Report := do
  match ← Json.fieldsOf? Report.layout v with
  | [id, podId, sliceId, status, inserts, deletes, errorMessage, validationReport] =>
    let id ← Json.required Json.decodeString id
    let podId ← Json.required Json.decodeString podId
    let sliceId ← Json.optional Json.decodeString sliceId
    let history ← Json.required (Json.decodeList StatusEntry.ofJson?) status
    let inserts ← Json.required Json.decodeCount inserts
    let deletes ← Json.required Json.decodeCount deletes
    let errorMessage ← Json.optional Json.decodeString errorMessage
    let validationReport ← Json.optional Json.decodeAny validationReport
    some ⟨id, podId, sliceId, history, ⟨inserts, deletes⟩, errorMessage, validationReport⟩
  | _ => none

end GraphLedger
