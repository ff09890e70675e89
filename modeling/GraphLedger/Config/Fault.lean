import GraphLedger.Config.Stage
import GraphLedger.Failure

/-!
# Faults of configurations

Why a configuration cannot be read, or cannot be run.
-/

namespace GraphLedger

/-- What is wrong with a configuration. -/
inductive ConfigFault where
  | unknownStage (name : String)
  | zeroCount (name : String)
  | emptyBackendId
  | duplicateBackend (id : String)
  | unknownDefault (id : String)
  | noBackend
  | duplicateStage (stage : StageId)
  | unknownBackend (stage : StageId)
  | afterStorage (stage : StageId)
  | partialCoverage (id : String)
  | noStorage
  | foreignBackend (id : String)
  | noEngine
  | partialStore (id : String)
  | unreadable (path : String)
  | malformed (path : Option String) (detail : String)
  deriving DecidableEq, Inhabited, Repr

namespace ConfigFault

/-- The wording of a fault. -/
def message : ConfigFault → String
  | .unknownStage name => "unknown stage '" ++ name ++ "'"
  | .zeroCount name => name ++ " must be at least 1"
  | .emptyBackendId => "backend id must not be empty"
  | .duplicateBackend id => "duplicate backend '" ++ id ++ "'"
  | .unknownDefault id => "unknown default backend '" ++ id ++ "'"
  | .noBackend => "no storage backend configured"
  | .duplicateStage stage => "duplicate stage '" ++ stage.name ++ "'"
  | .unknownBackend stage => "stage '" ++ stage.name ++ "' names an unknown backend"
  | .afterStorage stage => "stage '" ++ stage.name ++ "' must run before every storage stage"
  | .partialCoverage id =>
    "last storage stage '" ++ id ++ "' does not claim every record; "
      ++ "add a catch-all backend or set allow_partial_coverage"
  | .noStorage => "no storage stage configured; set allow_partial_coverage to run without one"
  | .foreignBackend id => "backend '" ++ id ++ "' is not configured"
  | .noEngine => "assertion and materialize stages require a query engine"
  | .partialStore id => "last storage stage '" ++ id ++ "' does not claim every record"
  | .unreadable path => "failed to read " ++ path ++ ": the file cannot be read"
  | .malformed (some path) detail => "failed to parse " ++ path ++ ": " ++ detail
  | .malformed none detail => detail

/-- The fault as a failure. -/
def toFailure (e : ConfigFault) : Failure := .config e.message

end ConfigFault

end GraphLedger
