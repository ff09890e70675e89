import GraphLedger.Proofs.Stage.Entries
import GraphLedger.Proofs.Stage.Failing

/-! # Entries are prepared before they are added

Materializing the entries of a request has two parts. First its query is put, its entries are
expanded and its context is read, which fails or gives the context and the nodes to delete and to
insert; this leaves the buffer alone and draws on no supply. Then the nodes are translated, and what
they are translated to is added, deletions before insertions. Only the second part can leave
something in the buffer.

* `prepared`: what the first part gives; `run_addExpanded`: both parts.
* `run_stage_of_entries`: a request without references.
* `addNodes_fails`: how the second part fails, and what it leaves then. -/

namespace GraphLedger

open JsonLd

namespace Materialize

theorem no_references_iff {r : Request} :
    r.hasRefs = false ↔ r.insertFromRefs = [] ∧ r.deleteFromRefs = [] := by
  unfold Request.hasRefs
  simp only [Bool.or_eq_false_iff, Bool.not_eq_false', List.isEmpty_iff]

section Runs
variable {engine : QueryEngine} {loaders : List Loader} {limits : Limits} {r : Request}
  {c : Context} {deletes inserts : List Json.Fields} {w w' : Workspace} {e : Failure}

theorem run_stage_of_entries (h : w.buffer.request.hasRefs = false) :
    (stage engine loaders limits).run.run w = (addEntries engine limits).run.run w := by
  obtain ⟨hinserts, hdeletes⟩ := no_references_iff.mp h
  show (do
    addReferences loaders limits .delete w.buffer.request.deleteFromRefs
    addReferences loaders limits .insert w.buffer.request.insertFromRefs
    addEntries engine limits : Step Unit).run.run w = _
  rw [hinserts, hdeletes]
  rfl

/-! ### How adding fails -/

/-- **Nodes fail to be added** and leave the buffer as it was, or they are all translated, those to
delete are valid and are left there, and one of those to insert is not valid. -/
theorem addNodes_fails (h : (addNodes c deletes inserts).run.run w = (.error e, w')) :
    (w'.buffer = w.buffer ∧ e.status = .validationError) ∨
    ∃ ds is s, Gives (statements c deletes inserts) (.start w.supply) (ds, is) s ∧
      checkStatements ds = .ok () ∧ checkStatements is = .error e ∧
      w'.buffer = w.buffer.add (ds.map (w.buffer.record .delete)) := by
  rw [addNodes, naming_eq_drawing, Step.run_bind, Step.run_drawing] at h
  rcases hrun : (statements c deletes inserts).run.run (.start w.supply) with ⟨fault | ⟨ds, is⟩, s⟩
  · rw [hrun] at h
    cases h
    exact Or.inl ⟨rfl, rfl⟩
  · rw [hrun] at h
    dsimp only [Except.mapError] at h
    rw [Step.run_bind, Step.run_addStatements] at h
    cases hds : checkStatements ds with
    | error e' =>
      rw [hds] at h
      cases h
      exact Or.inl ⟨rfl, status_of_checkStatements hds⟩
    | ok u =>
      rw [hds] at h
      dsimp only at h
      rw [Step.run_addStatements] at h
      cases his : checkStatements is with
      | ok u' =>
        rw [his] at h
        cases h
      | error e' =>
        rw [his] at h
        cases h
        exact Or.inr ⟨ds, is, s, hrun, hds, his, rfl⟩

end Runs

end Materialize

end GraphLedger
