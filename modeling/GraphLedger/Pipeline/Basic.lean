import GraphLedger.Audit.ChangeLog
import GraphLedger.Audit.Outbox
import GraphLedger.Pipeline.Chain

/-!
# Pipelines

A pipeline processes requests. Each request is checked, run through the stages, and ends with
exactly one report, which is written to the change log and published. What requests leave behind is
the ledger: the stores, the change log and the outbox.
-/

namespace GraphLedger

/-- What requests leave behind, with the queries that were put and the supply of identifiers. -/
structure Ledger where
  stores : List RecordStore
  reports : ReportStore
  outbox : Outbox
  asked : List String
  supply : Nat
  deriving Inhabited

/-- How requests are processed. -/
structure Pipeline where
  stages : List Stage
  defaultBackend : String
  recordPreprocessed : Bool

namespace Pipeline

/-- The names of the stages. -/
def stageNames (p : Pipeline) : List String := p.stages.map Stage.name

/-- How a pipeline is shown. -/
def display (p : Pipeline) : String :=
  "ChangePipeline \x7b stages: [" ++ ", ".intercalate (p.stageNames.map Text.Quoted.encode)
    ++ "], default_backend: " ++ Text.Quoted.encode p.defaultBackend ++ ", record_preprocessed: "
    ++ (if p.recordPreprocessed then "true" else "false") ++ " \x7d"

/-! ### Processing -/

/-- The time at which a request was queued. -/
def queuedAt (now : Instant) (r : Request) : Instant := r.queuedAt?.getD now

/-- A request before its first stage. -/
def start (p : Pipeline) (now : Instant) (r : Request) (l : Ledger) : Run :=
  ⟨⟨.openAt r now, l.asked, l.supply⟩, l.stores, .queued r (queuedAt now r), p.recordPreprocessed⟩

/-- Runs a request; one that cannot be processed is refused before the first stage. -/
def run (p : Pipeline) (now : Instant) (r : Request) (l : Ledger) : Except Failure Unit × Run :=
  match r.fault? with
  | some e => (.error (.ofRequest e), p.start now r l)
  | none => (p.start now r l).chain now p.stages

/-- The report of a request that was run. -/
def concluded (now : Instant) (outcome : Except Failure Unit) (r : Run) : Report :=
  match outcome with
  | .ok () => r.report.commit now r.workspace.buffer.statistics
  | .error e =>
    { r.report with validationReport := e.validationReport? }.fail now e.status e.message

/-- The ledger after a request was run, with its report. -/
def recorded (l : Ledger) (r : Run) (report : Report) : Ledger :=
  { stores := r.stores
    reports := l.reports.write report
    outbox := l.outbox.publish ⟨report.podId, report⟩
    asked := r.workspace.asked
    supply := r.workspace.supply }

/-- Processes a request to its report, which is not given if it cannot be written to the change log.
-/
def process (p : Pipeline) (now : Instant) (r : Request) (l : Ledger) :
    Except Failure Report × Ledger :=
  let (outcome, r) := p.run now r l
  let report := concluded now outcome r
  let answer := match l.reports.failure? with
    | some e => .error e
    | none => .ok report
  (answer, recorded l r report)

end Pipeline

namespace Ledger

/-! ### Reading and taking back -/

/-- The store of an identifier. -/
def store? (l : Ledger) (id : String) : Option RecordStore := l.stores.find? fun s => s.id == id

/-- Takes the records of a request back from all stores, and says how many there were. -/
def rollback (podId requestId : String) (l : Ledger) : Except Failure Nat × Ledger :=
  let (n, stores) := RecordStore.rollbackAll podId requestId l.stores
  (n, { l with stores := stores })

end Ledger

end GraphLedger
