import GraphLedger.CommandLine.Arguments
import GraphLedger.CommandLine.Surroundings
import GraphLedger.Config.Wire
import GraphLedger.Json.Printer
import GraphLedger.Pipeline.Build
import GraphLedger.Request.Wire

/-!
# Commands

One command checks a configuration and prints its stages. The other applies a request to empty
stores and prints the report, and the stored records if they are wanted. It succeeds exactly if the
request is committed; a request that is not committed has an exit code of its own, and whatever
keeps the request from being processed leaves no output.
-/

namespace GraphLedger.CommandLine

/-- The configuration that is given, or the standard one. -/
def loadConfig (s : Surroundings) : Option String → Except RunFault Config
  | none => .ok .standard
  | some path => (Config.ofFile s.read path).mapError fun e => .config e.message

/-! ### Checking -/

/-- The lines that show a pipeline. -/
def describe (colored : Bool) (p : Pipeline) : List String :=
  let stages := p.stageNames.zipIdx.map fun (name, i) => "  " ++ toString (i + 1) ++ ". " ++ name
  paint colored .success "pipeline config is valid" :: stages
    ++ [paint colored .strong "default backend:" ++ " " ++ p.defaultBackend]

/-- Checks a configuration. -/
def check (colored : Bool) (config : Config) : Except RunFault Outcome := do
  let setup := Setup.ofConfig config QueryFixtures.empty.engine
  let p ← setup.build.mapError fun e => .config e.message
  return ⟨0, describe colored p, []⟩

/-! ### Reading what a request needs -/

/-- Whether a path means the standard input. Paths are compared by their components, so that slashes
behind the dash do not count. -/
def isStandardInput (path : String) : Bool := FilePath.components path = FilePath.components "-"

/-- The text of a file, or of the standard input, which is empty once it has been read. -/
def readInput (s : Surroundings) (taken : Bool) (path : String) : Except RunFault String :=
  if isStandardInput path then
    match s.input with
    | none => .error .terminal
    | some text => .ok (if taken then "" else text)
  else
    match s.read path with
    | some text => .ok text
    | none => .error (.input ("failed to read " ++ path ++ ": the file cannot be read"))

/-- The request in a text. -/
def readRequest (text : String) : Except RunFault Request :=
  (Request.read text).mapError fun detail => .input ("JSON parse error: " ++ detail)

/-- The failure of reading the table of answers. -/
def fixturesFault (f : Failure) : RunFault := .input f.message

/-- The table of answers, empty if no file is given. -/
def readFixtures (s : Surroundings) : Option String → Except RunFault QueryFixtures
  | none => .ok .empty
  | some path =>
    match s.read path with
    | none =>
      .error (fixturesFault
        (.config ("cannot read query fixtures " ++ path ++ ": the file cannot be read")))
    | some text =>
      match Json.read text with
      | .error e => .error (fixturesFault (.json e.message))
      | .ok v => (QueryFixtures.ofJson v).mapError fixturesFault

/-- The schema in a text that comes from a path. -/
def readSchema (path text : String) : Except RunFault Schema :=
  (Schema.read text).mapError fun detail => .input (path ++ " is not valid: " ++ detail)

/-- The schemas of slices of a pod. -/
def readSchemas (s : Surroundings) (podId : String) :
    Bool → Conformance.Schemas → List String → Except RunFault Conformance.Schemas
  | _, schemas, [] => .ok schemas
  | taken, schemas, path :: paths => do
    let text ← readInput s taken path
    let schema ← readSchema path text
    readSchemas s podId (taken || isStandardInput path) (schemas.insert podId schema) paths

/-- A request with the setup that it is processed with. -/
structure Prepared where
  request : Request
  setup : Setup

/-- Reads all that a request needs. -/
def prepare (s : Surroundings) (config : Config) (args : ApplyArguments) :
    Except RunFault Prepared := do
  let text ← readInput s false args.request
  let request ← readRequest text
  let fixtures ← readFixtures s args.queryFixtures
  let schemas ← readSchemas s request.podId (isStandardInput args.request) [] args.sliceSchemas
  return ⟨request, {
    config := config
    engine := some fixtures.engine
    loaders := [Loader.file args.refsRoot s.read]
    schemas := schemas
    stores := []
    reports := .memory []
    outbox := .new Outbox.defaultCapacity false
    supply := s.supply }⟩

/-! ### Applying -/

/-- The query for all records of a request. -/
def recordsOf (r : Request) : RecordsQuery :=
  ⟨r.podId, some r.id, .any, none, 0xFFFFFFFFFFFFFFFF⟩

/-- The records of a request in the store that is read from. -/
def storedRecords (p : Pipeline) (l : Ledger) (r : Request) : Except RunFault (List Record) :=
  match l.store? p.defaultBackend with
  | none => .error (.config (ConfigFault.unknownDefault p.defaultBackend).message)
  | some store =>
    match store.get (recordsOf r) with
    | .ok page => .ok page.items
    | .error e => .error (.ofFailure (.ofCursor e))

/-- The line that tells how many records are stored. -/
def storedLine (colored : Bool) (p : Pipeline) (rs : List Record) : String :=
  paint colored .success "stored:" ++ " " ++ toString rs.length ++ " record(s) in backend '"
    ++ p.defaultBackend ++ "'"

/-- The line that tells that a request failed. -/
def failedLine (colored : Bool) (report : Report) : String :=
  paint colored .warning "failed:" ++ " " ++ report.status.code ++ " "
    ++ report.errorMessage.getD ""

/-- The outcome of a request that was processed, with the records to be shown, if they are. -/
def conclude (colored : Bool) (p : Pipeline) (report : Report) (records : Option (List Record)) :
    Outcome :=
  let shown := (records.getD []).map Record.display
  let stored := match records with
    | some rs => [storedLine colored p rs]
    | none => []
  let output := report.toJson.indented :: shown
  if report.status.isSuccess then ⟨0, output, stored⟩
  else ⟨3, output, stored ++ [failedLine colored report]⟩

/-- The outcome of a request that was processed if its records cannot be read: the report is printed
by then. -/
def breakOff (colored : Bool) (report : Report) (e : RunFault) : Outcome :=
  ⟨e.exitCode, [report.toJson.indented], e.lines colored⟩

/-- Applies a request. -/
def apply (s : Surroundings) (colored : Bool) (config : Config) (args : ApplyArguments) :
    Except RunFault Outcome := do
  let prepared ← prepare s config args
  let p ← prepared.setup.build.mapError fun e => .config e.message
  let (answer, l) := p.process s.now prepared.request prepared.setup.ledger
  let report ← answer.mapError RunFault.ofFailure
  if args.showRecords then
    match storedRecords p l prepared.request with
    | .ok records => return conclude colored p report (some records)
    | .error e => return breakOff colored report e
  else return conclude colored p report none

/-! ### Command lines -/

/-- The paths of the files that an invocation names. -/
def Invocation.paths (i : Invocation) : List String :=
  i.options.config.toList ++ match i.command with
    | .apply args => args.request :: args.queryFixtures.toList ++ args.sliceSchemas
    | .check => []

/-- Whether an invocation reads the standard input. -/
def Invocation.readsInput (i : Invocation) : Bool :=
  match i.command with
  | .apply args => (args.request :: args.sliceSchemas).any isStandardInput
  | .check => false

/-- The paths of the files that the references of a request mean. -/
def referencePaths (refsRoot : Option String) (r : Request) : List String :=
  (r.deleteFromRefs ++ r.insertFromRefs).filterMap fun ref => (Loader.pathOf refsRoot ref).toOption

/-- Runs a command. -/
def Invocation.run (s : Surroundings) (i : Invocation) : Outcome :=
  let colored := s.isColored i.options.noColor
  let result := do
    let config ← loadConfig s i.options.config
    match i.command with
    | .apply args => apply s colored config args
    | .check => check colored config
  match result with
  | .ok outcome => outcome
  | .error e => e.toOutcome colored

/-- How the program is used. -/
def usage : List String :=
  ["Run change requests through the podgraph pipeline", "",
    "Usage: podgraph [-v | -q] [--no-color] [--config FILE] COMMAND", "",
    "  apply REQUEST|- [--query-fixtures FILE] [--refs-root DIR] [--slice-schema FILE]... "
      ++ "[--show-records]",
    "  check"]

/-- The outcome of a command line that leads to no invocation. -/
def Interruption.toOutcome : Interruption → Outcome
  | .refused fault => ⟨2, [], ["error: " ++ fault.message]⟩
  | .help => ⟨0, usage, []⟩
  | .version => ⟨0, ["podgraph 0.1.0"], []⟩

/-- Runs a command line. -/
def run (s : Surroundings) (environment : Option String) (args : List String) : Outcome :=
  match Invocation.parse environment args with
  | .ok i => i.run s
  | .error e => e.toOutcome

end GraphLedger.CommandLine
