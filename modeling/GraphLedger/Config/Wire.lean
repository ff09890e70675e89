import GraphLedger.Config.Basic
import GraphLedger.Json.Outline
import GraphLedger.Reference.FilePath
import GraphLedger.Toml.Reader

/-!
# Configurations in files

A configuration is written in JSON or in TOML, every field of it may be left out, and fields of
other names do not matter. In TOML an array in place of a table may go on after the last field, and
the name of a choice may be given as a table with an empty value.
-/

namespace GraphLedger

/-! ### Writing -/

/-- A backend as JSON. -/
def BackendConfig.toJson (b : BackendConfig) : Json :=
  Json.ofFields [("id", some (.string b.id)), ("kind", some (.string b.kind.name)),
    ("claim_predicate", b.claimPredicate.map .string)]

/-- A configuration as JSON. -/
def Config.toJson (c : Config) : Json :=
  .object [("stages", .array (c.stages.map fun s => .string s.name)),
    ("default_backend", (c.defaultBackend.map .string).getD .null),
    ("assertion_parallelism", .int c.assertionParallelism),
    ("reference_batch_size", .int c.referenceBatchSize),
    ("max_template_results", .int c.maxTemplateResults),
    ("record_preprocessed", .bool c.recordPreprocessed),
    ("allow_partial_coverage", .bool c.allowPartialCoverage),
    ("backends", .array (c.backends.map BackendConfig.toJson))]

/-! ### Reading JSON -/

/-- The fields of a backend. -/
def BackendConfig.layout : Json.Layout := [["id"], ["kind"], ["claim_predicate"]]

/-- The kind of store that JSON writes. -/
def BackendKind.ofJson? (v : Json) : Option BackendKind :=
  (Json.decodeName v).bind BackendKind.ofName?

/-- The backend that JSON writes. -/
def BackendConfig.ofJson? (v : Json) : Option BackendConfig := do
  match ← Json.fieldsOf? BackendConfig.layout v with
  | [id, kind, claimPredicate] =>
    let id ← Json.required Json.decodeString id
    let kind ← Json.orDefault .memory BackendKind.ofJson? kind
    let claimPredicate ← Json.optional Json.decodeString claimPredicate
    some ⟨id, kind, claimPredicate⟩
  | _ => none

/-- The stage that JSON writes. -/
def StageId.ofJson? (v : Json) : Option StageId := v.asString?.bind StageId.ofName?

/-- The fields of a configuration. -/
def Config.layout : Json.Layout :=
  [["stages"], ["default_backend"], ["assertion_parallelism"], ["reference_batch_size"],
    ["max_template_results"], ["record_preprocessed"], ["allow_partial_coverage"], ["backends"]]

/-- The configuration that JSON writes. -/
def Config.ofJson? (v : Json) : Option Config := do
  let d := Config.standard
  match ← Json.fieldsOf? Config.layout v with
  | [stages, defaultBackend, parallelism, batchSize, maxResults, preprocessed, partialCoverage,
      backends] =>
    let stages ← Json.orDefault d.stages (Json.decodeList StageId.ofJson?) stages
    let defaultBackend ← Json.optional Json.decodeString defaultBackend
    let parallelism ← Json.orDefault d.assertionParallelism Json.decodeCount parallelism
    let batchSize ← Json.orDefault d.referenceBatchSize Json.decodeCount batchSize
    let maxResults ← Json.orDefault d.maxTemplateResults Json.decodeCount maxResults
    let preprocessed ← Json.orDefault d.recordPreprocessed Json.decodeBool preprocessed
    let partialCoverage ← Json.orDefault d.allowPartialCoverage Json.decodeBool partialCoverage
    let backends ← Json.orDefault d.backends (Json.decodeList BackendConfig.ofJson?) backends
    some ⟨stages, defaultBackend, parallelism, batchSize, maxResults, preprocessed, partialCoverage,
      backends⟩
  | _ => none

/-! ### Reading TOML -/

/-- The name of a choice as TOML may give it. -/
def BackendKind.plain : Json → Json
  | .object [(name, .object [])] => .string name
  | .object [(name, .array [])] => .string name
  | v => v

/-- A backend as TOML may give it. -/
def BackendConfig.plain : Json → Json
  | .object fs => .object (fs.map fun f => if f.1 = "kind" then (f.1, BackendKind.plain f.2) else f)
  | .array (id :: kind :: rest) => .array (id :: BackendKind.plain kind :: rest.take 1)
  | v => v

/-- A configuration as TOML may give it. -/
def Config.plain : Json → Json
  | .object fs => .object (fs.map fun f =>
    match f with
    | ("backends", .array bs) => ("backends", .array (bs.map BackendConfig.plain))
    | f => f)
  | v => v

namespace Config

/-- The configuration that a TOML text writes; why it writes none otherwise. -/
def readToml (text : String) : Except String Config :=
  match Toml.read text with
  | .error e => .error e.message
  | .ok v =>
    match ofJson? (plain v) with
    | some c => .ok c
    | none => .error Json.misfit

/-- What is wanted of a configuration in JSON. -/
def outline : Json.Outline :=
  (Json.Outline.ofLayout layout).refine "backends"
    (.items (Json.Outline.ofLayout BackendConfig.layout))

/-- The configuration that a JSON text writes; why it writes none otherwise. -/
def readJson (text : String) : Except String Config := Json.decodeText outline ofJson? text

/-- The configuration of a TOML text. -/
def ofToml (text : String) : Except ConfigFault Config :=
  (readToml text).mapError fun detail => .malformed none detail

/-- Whether a file holds JSON by its name. -/
def isJsonPath (path : String) : Bool :=
  match FilePath.extension? path with
  | some e => e.toList.map Char.toLower == ['j', 's', 'o', 'n']
  | none => false

/-- The configuration in a file with a text; a blank text says nothing. -/
def ofFileText (path text : String) : Except ConfigFault Config :=
  if Text.allBlank text then .ok standard
  else
    (if isJsonPath path then readJson text else readToml text).mapError fun detail =>
      .malformed (some path) detail

/-- The configuration in a file, given the texts of files. -/
def ofFile (read : String → Option String) (path : String) : Except ConfigFault Config :=
  match read path with
  | some text => ofFileText path text
  | none => .error (.unreadable path)

end Config

end GraphLedger
