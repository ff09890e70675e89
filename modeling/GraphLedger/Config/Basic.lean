import GraphLedger.Backend
import GraphLedger.Config.Fault

/-!
# Configurations

A configuration names the stages of processing a request in their order, and the backends that
storage stages store in. Without stages it means the three that work on the buffer and then each
backend in turn. `validate` says whether a configuration can be run safely: no stage works on the
buffer after something is stored, and the last backend takes all that is left.
-/

namespace GraphLedger

/-- What kind of store a backend is. -/
inductive BackendKind where
  | memory
  deriving DecidableEq, Inhabited, Repr

namespace BackendKind

/-- The name of a kind. -/
def name : BackendKind → String
  | .memory => "memory"

/-- The kind of a name. -/
def ofName? (s : String) : Option BackendKind := if s = "memory" then some .memory else none

end BackendKind

/-- A backend, which claims the subjects that have a property, or everything. -/
structure BackendConfig where
  id : String
  kind : BackendKind
  claimPredicate : Option String
  deriving DecidableEq, Inhabited, Repr

namespace BackendConfig

/-- The backend in memory that claims everything. -/
def memory (id : String) : BackendConfig := ⟨id, .memory, none⟩

/-- What the backend claims. -/
def selector (b : BackendConfig) : ClaimSelector := .ofPredicate? b.claimPredicate

/-- Whether the backend claims everything. -/
def claimsAll (b : BackendConfig) : Bool := b.claimPredicate.isNone

end BackendConfig

/-- A configuration. -/
structure Config where
  stages : List StageId
  defaultBackend : Option String
  assertionParallelism : Nat
  referenceBatchSize : Nat
  maxTemplateResults : Nat
  recordPreprocessed : Bool
  allowPartialCoverage : Bool
  backends : List BackendConfig
  deriving DecidableEq, Inhabited, Repr

namespace Config

/-- The configuration if nothing is said: one backend that claims everything. -/
def standard : Config := ⟨[], none, 4, 1000, 10000, false, false, [.memory "default"]⟩

/-- The stages, or those that are meant if none are named. -/
def resolvedStages (c : Config) : List StageId :=
  if c.stages.isEmpty then
    [.assertions, .materialize, .conformance] ++ c.backends.map fun b => .storage b.id
  else c.stages

/-- The backend of an identifier. -/
def backend? (c : Config) (id : String) : Option BackendConfig :=
  c.backends.find? fun b => b.id == id

/-- The backend that is read from if none is named: the one that is said, or the first. -/
def defaultBackendId (c : Config) : Except ConfigFault String :=
  match c.defaultBackend with
  | some id =>
    match c.backend? id with
    | some b => .ok b.id
    | none => .error (.unknownDefault id)
  | none =>
    match c.backends.head? with
    | some b => .ok b.id
    | none => .error .noBackend

/-! ### Validation -/

/-- Checks that the counts are positive. -/
def checkCounts : List (String × Nat) → Except ConfigFault Unit
  | [] => .ok ()
  | (name, n) :: rest => if n = 0 then .error (.zeroCount name) else checkCounts rest

/-- The counts of a configuration with their names. -/
def counts (c : Config) : List (String × Nat) :=
  [("assertion_parallelism", c.assertionParallelism),
    ("reference_batch_size", c.referenceBatchSize),
    ("max_template_results", c.maxTemplateResults)]

/-- Checks that backends have identifiers, and different ones. -/
def checkBackends (seen : List String) : List BackendConfig → Except ConfigFault Unit
  | [] => .ok ()
  | b :: rest =>
    if b.id.isEmpty then .error .emptyBackendId
    else if seen.contains b.id then .error (.duplicateBackend b.id)
    else checkBackends (b.id :: seen) rest

/-- Checks a stage that follows others. -/
def checkStage (c : Config) (before : List StageId) (stage : StageId) : Except ConfigFault Unit :=
  if before.contains stage then .error (.duplicateStage stage)
  else
    match stage with
    | .storage id =>
      if (c.backend? id).isNone then .error (.unknownBackend stage) else .ok ()
    | _ => if before.any StageId.isStorage then .error (.afterStorage stage) else .ok ()

/-- Checks stages that follow others. -/
def checkStages (c : Config) (before : List StageId) : List StageId → Except ConfigFault Unit
  | [] => .ok ()
  | stage :: rest => do
    c.checkStage before stage
    checkStages c (before ++ [stage]) rest

/-- The identifier of the backend that stores last. -/
def lastStorage? (stages : List StageId) : Option String :=
  (stages.filterMap (·.backendId?)).getLast?

/-- Checks that the backend that stores last claims everything. -/
def checkCoverage (c : Config) : Except ConfigFault Unit :=
  if c.allowPartialCoverage then .ok ()
  else
    match (lastStorage? c.resolvedStages).bind c.backend? with
    | none => .error .noStorage
    | some b => if b.claimsAll then .ok () else .error (.partialCoverage b.id)

/-- Checks that a configuration can be run. -/
def validate (c : Config) : Except ConfigFault Unit := do
  checkCounts c.counts
  checkBackends [] c.backends
  discard c.defaultBackendId
  c.checkStages [] c.resolvedStages
  c.checkCoverage

end Config

end GraphLedger
