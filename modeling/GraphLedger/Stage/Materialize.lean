import GraphLedger.Reference.Loader
import GraphLedger.Stage.Step
import GraphLedger.Template.Nodes

/-!
# Materializing

What a request wants inserted and deleted is turned into records. Its references are loaded and
added batch by batch. Its entries are expanded to nodes: an entry that is a node stands for itself,
the wildcard for every node in the answer of the query of the request, and another template is
rendered for that answer. The nodes are turned into statements under the context of the request, and
only then are records added. Only statements whose IRIs are absolute become records.
-/

namespace GraphLedger.Materialize

/-- What bounds the work. -/
structure Limits where
  batchSize : Nat
  maxTemplateResults : Nat
  deriving DecidableEq, Inhabited, Repr

/-! ### Adding -/

/-- Checks that the IRIs of statements are absolute. -/
def checkStatements : List Statement → Except Failure Unit
  | [] => .ok ()
  | st :: sts =>
    match st.invalid? with
    | some e => .error (.invalidIri e)
    | none => checkStatements sts

/-- Adds statements as records, or none of them. -/
def addStatements (t : ChangeType) (sts : List Statement) : Step Unit := do
  Step.ofExcept (checkStatements sts)
  let b ← Step.buffer
  Step.add (sts.map (b.record t))

/-! ### References -/

/-- The parts of a list of a given length, the last one perhaps shorter. -/
def chunks {α : Type} (size : Nat) : Nat → List α → List (List α)
  | 0, _ => []
  | _ + 1, [] => []
  | fuel + 1, x :: xs =>
    let n := max size 1
    (x :: xs).take n :: chunks size fuel ((x :: xs).drop n)

/-- The statements of a batch, unless there is a failure in it. -/
def batchStatements (batch : StatementStream) : Except Failure (List Statement) := batch.mapM id

/-- Adds batches one after the other. -/
def addBatches (t : ChangeType) : List StatementStream → Step Unit
  | [] => return
  | batch :: rest => do
    addStatements t (← Step.ofExcept (batchStatements batch))
    addBatches t rest

/-- Loads a reference and adds what it holds. -/
def addReference (loaders : List Loader) (limits : Limits) (t : ChangeType) (r : Reference) :
    Step Unit := do
  let stream ← Step.drawing (loadReference loaders r)
  addBatches t (chunks limits.batchSize stream.length stream)

/-- Adds what references hold. -/
def addReferences (loaders : List Loader) (limits : Limits) (t : ChangeType) :
    List Reference → Step Unit
  | [] => return
  | r :: rs => do
    addReference loaders limits t r
    addReferences loaders limits t rs

/-! ### Entries -/

/-- Nodes, with the number of those that come from templates. -/
structure Expanded where
  nodes : List Json.Fields
  templated : Nat
  deriving DecidableEq, Inhabited

/-- The nodes of a template entry. -/
def templateNodes (text : String) (bindings : Option Json) : Except Failure (List Json.Fields) :=
  match bindings with
  | none => .error (.validation "template entries require a 'with' query")
  | some data =>
    if (Entry.template text).isWildcard then .ok (JsonLd.collectNodes data)
    else Template.nodes text data

/-- The nodes of an entry. -/
def expandEntry (bindings : Option Json) : Entry → Except Failure Expanded
  | .node fs => .ok ⟨[fs], 0⟩
  | .template text => (templateNodes text bindings).map fun ns => ⟨ns, ns.length⟩

/-- The nodes of entries. -/
def expand (bindings : Option Json) : List Entry → Except Failure Expanded
  | [] => .ok ⟨[], 0⟩
  | e :: es => do
    let first ← expandEntry bindings e
    let rest ← expand bindings es
    return ⟨first.nodes ++ rest.nodes, first.templated + rest.templated⟩

/-- The answer to the query of a request, if it has one. -/
def bindings (engine : QueryEngine) (r : Request) : Step (Option Json) :=
  match r.query with
  | none => return none
  | some q => do
    let response ← Step.ask engine q
    return some (← Step.ofExcept response.toData)

/-- Fails if there is an answer without results on which templates depend. -/
def checkMatches (r : Request) (bindings : Option Json) : Except Failure Unit :=
  match bindings with
  | none => .ok ()
  | some data =>
    if r.hasTemplates && !hasResults data then
      .error (.noMatches ("'with' query matched nothing: " ++ r.query.getD ""))
    else .ok ()

/-- The nodes to delete and to insert for an answer. -/
def expandRequest (limits : Limits) (r : Request) (bindings : Option Json) :
    Except Failure (List Json.Fields × List Json.Fields) := do
  checkMatches r bindings
  let deletes ← expand bindings r.delete
  let inserts ← expand bindings r.insert
  let templated := deletes.templated + inserts.templated
  if limits.maxTemplateResults < templated then
    throw (.tooManyMatches templated limits.maxTemplateResults)
  return (deletes.nodes, inserts.nodes)

/-- The statements of nodes to delete and to insert, which share their labels. -/
def statements (c : JsonLd.Context) (deletes inserts : List Json.Fields) :
    JsonLd.Naming (List Statement × List Statement) := do
  let ds ← JsonLd.ofNodes c deletes
  let is ← JsonLd.ofNodes c inserts
  return (ds, is)

/-- The failure of a request whose templates lack a query. -/
def missingQuery : Failure := .validation RequestFault.templateWithoutQuery.message

/-- Adds what the entries of a request stand for, deletions before insertions. -/
def addExpanded (engine : QueryEngine) (limits : Limits) (r : Request) : Step Unit := do
  let answer ← bindings engine r
  let (deletes, inserts) ← Step.ofExcept (expandRequest limits r answer)
  let c ← Step.ofExcept ((JsonLd.Context.parse r.context).mapError JsonLd.Fault.toFailure)
  let (ds, is) ← Step.naming (statements c deletes inserts)
  addStatements .delete ds
  addStatements .insert is

/-- Adds what the entries of the request stand for, if it has any. -/
def addEntries (engine : QueryEngine) (limits : Limits) : Step Unit := do
  let r ← Step.request
  if r.hasEntries then
    if r.hasTemplates && r.query.isNone then throw missingQuery
    else addExpanded engine limits r

/-- Adds all that the request wants inserted and deleted. -/
def stage (engine : QueryEngine) (loaders : List Loader) (limits : Limits) : Step Unit := do
  let r ← Step.request
  addReferences loaders limits .delete r.deleteFromRefs
  addReferences loaders limits .insert r.insertFromRefs
  addEntries engine limits

end GraphLedger.Materialize
