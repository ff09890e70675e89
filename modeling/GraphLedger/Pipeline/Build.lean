import GraphLedger.Config.Basic
import GraphLedger.Pipeline.Basic
import GraphLedger.Stage.Assertions
import GraphLedger.Stage.Conformance
import GraphLedger.Stage.Materialize

/-!
# Building pipelines

A pipeline is built from a configuration and from what its stages need: the engine for queries, the
loaders of references and the schemas of slices. A store may be given in place of the backend that
the configuration describes.
-/

namespace GraphLedger

/-- What a pipeline is built from. -/
structure Setup where
  config : Config
  engine : Option QueryEngine
  loaders : List Loader
  schemas : Conformance.Schemas
  stores : List RecordStore
  reports : ReportStore
  outbox : Outbox
  supply : Nat

namespace Setup

/-- What a configuration is run with if only the engine is given. -/
def ofConfig (config : Config) (engine : QueryEngine) : Setup :=
  ⟨config, some engine, [], [], [], .memory [], .new Outbox.defaultCapacity false, 0⟩

/-- The store that is given for an identifier, of several the last. -/
def given? (s : Setup) (id : String) : Option RecordStore :=
  s.stores.reverse.find? fun store => store.id == id

/-- The store of a backend. -/
def storeOf (s : Setup) (b : BackendConfig) : RecordStore :=
  match s.given? b.id with
  | some store => store
  | none => .memory (.new b.id b.selector)

/-- The stores of all backends. -/
def allStores (s : Setup) : List RecordStore := s.config.backends.map s.storeOf

/-- Checks that stores are given for backends of the configuration only. -/
def checkGiven (s : Setup) : Except ConfigFault Unit :=
  match s.stores.find? fun store => (s.config.backend? store.id).isNone with
  | some store => .error (.foreignBackend store.id)
  | none => .ok ()

/-- The engine, which must be there. -/
def requireEngine (s : Setup) : Except ConfigFault QueryEngine :=
  match s.engine with
  | some engine => .ok engine
  | none => .error .noEngine

/-- The bounds of materializing. -/
def limits (s : Setup) : Materialize.Limits :=
  ⟨s.config.referenceBatchSize, s.config.maxTemplateResults⟩

/-- The stage that a configuration names. -/
def resolveStage (s : Setup) (stage : StageId) : Except ConfigFault Stage :=
  match stage with
  | .assertions => s.requireEngine.map fun engine =>
    .process stage.name (Assertion.stage engine s.config.assertionParallelism)
  | .materialize => s.requireEngine.map fun engine =>
    .process stage.name (Materialize.stage engine s.loaders s.limits)
  | .conformance => .ok (.process stage.name (Conformance.stage s.schemas))
  | .storage id =>
    match s.allStores.find? fun store => store.id == id with
    | some store => .ok (.store store.id)
    | none => .error (.unknownBackend stage)

/-- The store that is read from if none is named. -/
def resolveDefault (s : Setup) : Except ConfigFault String := do
  let id ← s.config.defaultBackendId
  match s.allStores.find? fun store => store.id == id with
  | some store => return store.id
  | none => throw (.unknownDefault id)

/-- The store that stores last. -/
def lastStore? (s : Setup) : Option RecordStore := do
  let id ← Config.lastStorage? s.config.resolvedStages
  s.allStores.find? fun store => store.id == id

/-- Checks that the store that stores last claims everything, as the configuration says of its
backend. -/
def checkCoverage (s : Setup) : Except ConfigFault Unit :=
  if s.config.allowPartialCoverage then .ok ()
  else
    match s.lastStore? with
    | some store => if store.claimsAll then .ok () else .error (.partialStore store.id)
    | none => .ok ()

/-- The ledger of a pipeline before its first request. -/
def ledger (s : Setup) : Ledger := ⟨s.allStores, s.reports, s.outbox, [], s.supply⟩

/-- The pipeline of a setup. -/
def build (s : Setup) : Except ConfigFault Pipeline := do
  s.config.validate
  s.checkGiven
  let defaultBackend ← s.resolveDefault
  let stages ← s.config.resolvedStages.mapM s.resolveStage
  s.checkCoverage
  return ⟨stages, defaultBackend, s.config.recordPreprocessed⟩

end Setup

end GraphLedger
