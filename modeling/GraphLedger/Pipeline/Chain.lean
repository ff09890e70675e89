import GraphLedger.Pipeline.Store
import GraphLedger.Report
import GraphLedger.Stage.Step

/-!
# Chains of stages

A chain runs its stages one after the other on one request. A stage works on the buffer, or stores
what a store claims of the buffer. The first stage that fails ends the chain. If it is wanted, the
report notes when everything before the first storage stage is done.
-/

namespace GraphLedger

/-- A stage of a pipeline. -/
inductive Stage where
  | process (name : String) (step : Step Unit)
  | store (backendId : String)

namespace Stage

/-- The name of a stage. -/
def name : Stage → String
  | .process name _ => name
  | .store id => id

/-- Whether the stage stores. -/
def isStorage : Stage → Bool
  | .process _ _ => false
  | .store _ => true

end Stage

/-- A request under way: what its steps share, the stores, the report so far, and whether it is
still to be noted that the request is preprocessed. -/
structure Run where
  workspace : Workspace
  stores : List RecordStore
  report : Report
  pending : Bool
  deriving DecidableEq, Inhabited

namespace Run

/-- Notes that the request is preprocessed, if that is still to be noted. -/
def notePreprocessed (now : Instant) (r : Run) : Run :=
  if r.pending then { r with report := r.report.push now .preprocessed none, pending := false }
  else r

@[simp] theorem stores_notePreprocessed (now : Instant) (r : Run) :
    (r.notePreprocessed now).stores = r.stores := by
  unfold notePreprocessed; split <;> rfl

@[simp] theorem workspace_notePreprocessed (now : Instant) (r : Run) :
    (r.notePreprocessed now).workspace = r.workspace := by
  unfold notePreprocessed; split <;> rfl

/-- Runs a step on the workspace. -/
def process (step : Step Unit) (r : Run) : Except Failure Unit × Run :=
  let (outcome, w) := step.run.run r.workspace
  (outcome, { r with workspace := w })

/-- Stores what a store claims of the buffer. -/
def store (now : Instant) (id : String) (r : Run) : Except Failure Unit × Run :=
  let r := r.notePreprocessed now
  match RecordStore.commitIn id r.stores r.workspace.buffer with
  | .error e => (.error e, r)
  | .ok (stores, b) =>
    (.ok (), { r with stores := stores, workspace := { r.workspace with buffer := b } })

/-- Runs a stage. -/
def stage (now : Instant) (s : Stage) (r : Run) : Except Failure Unit × Run :=
  match s with
  | .process _ step => r.process step
  | .store id => r.store now id

/-- Runs stages until one fails. -/
def stages (now : Instant) : List Stage → Run → Except Failure Unit × Run
  | [], r => (.ok (), r)
  | s :: ss, r =>
    match r.stage now s with
    | (.ok (), r) => stages now ss r
    | (.error e, r) => (.error e, r)

/-- Runs a chain to its end, where a request that was not stored is preprocessed at the latest. -/
def chain (now : Instant) (ss : List Stage) (r : Run) : Except Failure Unit × Run :=
  match stages now ss r with
  | (.ok (), r) => (.ok (), r.notePreprocessed now)
  | (.error e, r) => (.error e, r)

end Run

end GraphLedger
