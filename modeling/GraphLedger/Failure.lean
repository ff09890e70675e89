import GraphLedger.Page
import GraphLedger.Report

/-!
# Failures

Why a step of processing a request failed. Each failure has a wording and a status in which it
leaves the request; a failed check against a schema also carries the report of the check.
-/

namespace GraphLedger

/-- Why a step failed. -/
inductive Failure where
  | invalidIri (fault : InvalidIri)
  | invalidRequest (message : String)
  | invalidCursor (message : String)
  | json (message : String)
  | assertionFailed (message : String)
  | validation (message : String)
  | conformance (message : String) (report : Json)
  | noMatches (message : String)
  | tooManyMatches (count limit : Nat)
  | query (message : String)
  | template (message : String)
  | reference (message : String)
  | storage (backend message : String)
  | audit (message : String)
  | config (message : String)
  | internal (message : String)
  deriving DecidableEq, Inhabited

namespace Failure

/-- The wording of a failure. -/
def message : Failure → String
  | .invalidIri e => e.message
  | .invalidRequest m => "Invalid change request: " ++ m
  | .invalidCursor m => "Invalid cursor: " ++ m
  | .json m => "JSON error: " ++ m
  | .assertionFailed m => "Assertion failed: " ++ m
  | .validation m => "Validation error: " ++ m
  | .conformance m _ => "Conformance violation: " ++ m
  | .noMatches m => "No matches: " ++ m
  | .tooManyMatches count limit =>
    "Too many matches: " ++ toString count ++ " results exceed the limit of " ++ toString limit
  | .query m => "Query error: " ++ m
  | .template m => "Template error: " ++ m
  | .reference m => "Reference error: " ++ m
  | .storage backend m => "Storage error in backend '" ++ backend ++ "': " ++ m
  | .audit m => "Audit error: " ++ m
  | .config m => "Configuration error: " ++ m
  | .internal m => "Internal error: " ++ m

/-- The status in which a failure leaves the request. -/
def status : Failure → Status
  | .assertionFailed _ => .assertionFailed
  | .noMatches _ => .noMatches
  | .tooManyMatches _ _ => .tooManyMatches
  | .invalidIri _ | .invalidRequest _ | .invalidCursor _ | .json _ | .validation _
  | .conformance _ _ | .query _ | .template _ => .validationError
  | .reference _ | .storage _ _ | .audit _ | .config _ | .internal _ => .internalError

/-- The report of the check that failed, if one did. -/
def validationReport? : Failure → Option Json
  | .conformance _ report => some report
  | _ => none

/-- The failure of a cursor that cannot be read. -/
def ofCursor (e : Cursor.Fault) : Failure := .invalidCursor e.message

/-- The failure of a request that cannot be processed. -/
def ofRequest (e : RequestFault) : Failure := .invalidRequest e.message

/-- The failure of the change log, whatever its kind. -/
def asAudit : Failure → Failure
  | .audit m => .audit m
  | e => .audit e.message

end Failure

end GraphLedger
