import GraphLedger.Failure

/-!
# The change log

The change log keeps the report of every request, for each pod in the order in which requests were
first reported on. A report on a request that already has one takes its place. A report store is a
change log, or one that cannot be written and holds nothing.
-/

namespace GraphLedger

/-- The reports of each pod. -/
abbrev ChangeLog := List (String × List Report)

namespace ChangeLog

/-- The number of reports of a page if nothing else is said. -/
def defaultLimit : Nat := 50

/-- The reports of a pod. -/
def ofPod (log : ChangeLog) (podId : String) : List Report := (log.lookup podId).getD []

/-- Keeps a report among others, in place of the one with its identifier. -/
def put (r : Report) : List Report → List Report
  | [] => [r]
  | old :: rest => if old.id = r.id then r :: rest else old :: put r rest

/-- Keeps a report. -/
def write (r : Report) : ChangeLog → ChangeLog
  | [] => [(r.podId, [r])]
  | (p, rs) :: rest => if p = r.podId then (p, put r rs) :: rest else (p, rs) :: write r rest

/-- The report on a request. -/
def get? (log : ChangeLog) (podId requestId : String) : Option Report :=
  (log.ofPod podId).find? fun r => r.id == requestId

/-- A page of the reports of a pod. -/
def list (log : ChangeLog) (podId : String) (cursor : Option String) (limit : Nat) :
    Except Cursor.Fault (Page Report) :=
  Page.ofItems (log.ofPod podId) cursor limit

/-- The number of reports of a pod. -/
def podSize (log : ChangeLog) (podId : String) : Nat := (log.ofPod podId).length

end ChangeLog

/-- Where reports are written. -/
inductive ReportStore where
  | memory (log : ChangeLog)
  | failing (failure : Failure)
  deriving Inhabited

namespace ReportStore

/-- The change log, empty if nothing can be written. -/
def log : ReportStore → ChangeLog
  | .memory log => log
  | .failing _ => []

/-- The failure of writing. -/
def failure? : ReportStore → Option Failure
  | .memory _ => none
  | .failing e => some e.asAudit

/-- Writes a report, if that is possible. -/
def write (r : Report) : ReportStore → ReportStore
  | .memory log => .memory (log.write r)
  | .failing e => .failing e

/-- A page of the reports of a pod. Where nothing can be written there is only the empty page. -/
def list (s : ReportStore) (podId : String) (cursor : Option String) (limit : Nat) :
    Except Cursor.Fault (Page Report) :=
  match s with
  | .memory log => log.list podId cursor limit
  | .failing _ => .ok .empty

end ReportStore

end GraphLedger
