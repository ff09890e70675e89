import GraphLedger.Proofs.Stage.Sources

/-! # What failing entries leave in the buffer

What can fail about the entries of a request comes before anything is added, with one exception:
whether IRIs are absolute is checked of all statements to delete, these are added, and only then it
is checked of the statements to insert. So a request fails without a trace in the buffer, unless it
is all right up to a statement to insert that is not valid. Then its deletions are left there.

* `LeavesDeletions`: a failure leaves the deletions of its request.
* `left_by_failing_entries`: what is left in each case.
* `deletions_left_by_failure`: a request whose deletion is left. -/

namespace GraphLedger

open JsonLd

namespace Materialize

/-- **A failure leaves the deletions of its request** in a buffer: they are valid and have been
added, and the failure is the first statement to insert that is not valid. -/
structure LeavesDeletions (engine : QueryEngine) (loaders : List Loader) (w : Workspace)
    (e : Failure) (left : Buffer) (deletes inserts : List Statement) : Prop where
  sources : Sources engine loaders w.buffer.request w.supply deletes inserts
  valid : ∀ st ∈ deletes, st.invalid? = none
  invalid : ∃ before st after x, inserts = before ++ st :: after ∧
    (∀ v ∈ before, v.invalid? = none) ∧ st.invalid? = some x ∧ e = .invalidIri x
  added : left = w.buffer.add (deletes.map (w.buffer.record .delete))

section Failing
variable {engine : QueryEngine} {loaders : List Loader} {limits : Limits} {r : Request}
  {w w' : Workspace} {e : Failure}

theorem InTurn.eq_nil {α β σ : Type} {makes : α → σ → List β → σ → Prop} {s s' : σ} {bs : List β}
    (h : InTurn makes [] s bs s') : bs = [] := by
  cases h
  rfl

theorem Sources.eq_nil {next : Nat} {deletes inserts : List Statement}
    (h : Sources engine loaders r next deletes inserts) (hrefs : r.hasRefs = false) :
    (r.delete = [] → deletes = []) ∧ (r.insert = [] → inserts = []) := by
  cases h with
  | references hentries hdeletes hinserts =>
    obtain ⟨hnoInserts, hnoDeletes⟩ := no_references_iff.mp hrefs
    rw [hnoDeletes] at hdeletes
    rw [hnoInserts] at hinserts
    exact ⟨fun _ => hdeletes.eq_nil, fun _ => hinserts.eq_nil⟩
  | entries _ _ _ hdeletes hinserts =>
    refine ⟨fun hnone => ?_, fun hnone => ?_⟩
    · rw [hnone] at hdeletes
      exact hdeletes.eq_nil
    · rw [hnone] at hinserts
      exact hinserts.eq_nil

theorem left_by_addExpanded (hrefs : w.buffer.request.hasRefs = false)
    (h : (addExpanded engine limits w.buffer.request).run.run w = (.error e, w')) :
    w'.buffer = w.buffer ∨
      ∃ deletes inserts, LeavesDeletions engine loaders w e w'.buffer deletes inserts := by
  cases hprepared : prepared engine limits w.buffer.request with
  | error e' =>
    rw [run_addExpanded_of_error hprepared] at h
    cases h
    exact Or.inl rfl
  | ok plan =>
    obtain ⟨c, nodes, nodes'⟩ := plan
    rw [run_addExpanded hprepared] at h
    rcases addNodes_fails h with ⟨hbuffer, -⟩ | ⟨deletes, inserts, s, hgives, hd, hi, hbuffer⟩
    · exact Or.inl hbuffer
    · obtain ⟨data, s₁, hdata, hc, hdeletes, hinserts⟩ := inTurn_of_prepared hprepared hgives
      exact Or.inr ⟨deletes, inserts, .entries hrefs hdata hc hdeletes hinserts,
        invalid?_of_checkStatements hd, checkStatements_eq_error_iff.mp hi, hbuffer⟩

/-- **What failing entries leave.** If materializing a request without references fails, then what
was stored is counted as before. The records in the buffer and their positions are as before, too,
unless all statements to delete are valid and the failure is the first statement to insert that is
not: then the deletions have been added. So a request that only inserts or only deletes leaves the
buffer as it was. -/
theorem left_by_failing_entries (hrefs : w.buffer.request.hasRefs = false)
    (hrun : (stage engine loaders limits).run.run w = (.error e, w')) :
    w'.buffer.statistics = w.buffer.statistics ∧
    (w'.buffer = w.buffer ∨
      ∃ deletes inserts, LeavesDeletions engine loaders w e w'.buffer deletes inserts) ∧
    (w.buffer.request.delete = [] ∨ w.buffer.request.insert = [] → w'.buffer = w.buffer) := by
  have hleft : w'.buffer = w.buffer ∨
      ∃ deletes inserts, LeavesDeletions engine loaders w e w'.buffer deletes inserts := by
    rw [run_stage_of_entries hrefs, run_addEntries] at hrun
    split at hrun
    · split at hrun
      · cases hrun
        exact Or.inl rfl
      · exact left_by_addExpanded hrefs hrun
    · cases hrun
  refine ⟨?_, hleft, fun hone => ?_⟩
  · rcases hleft with hsame | ⟨deletes, inserts, h⟩
    · rw [hsame]
    · rw [h.added, Buffer.statistics_add]
  · rcases hleft with hsame | ⟨deletes, inserts, h⟩
    · exact hsame
    · obtain ⟨hdeletes, hinserts⟩ := h.sources.eq_nil hrefs
      rcases hone with hnone | hnone
      · rw [h.added, hdeletes hnone]
        rfl
      · -- with nothing to insert, there is nothing that is not valid
        obtain ⟨before, st, after, x, hsplit, -⟩ := h.invalid
        rw [hinserts hnone] at hsplit
        exact absurd hsplit.symm (List.append_ne_nil_of_right_ne_nil _ (List.cons_ne_nil st after))

/-- A request to replace one node by another, whose IRI is not absolute. -/
def replacingByRelative : Request :=
  { Request.new "01ARZ3NDEKTSV4RRFFQ69G5FAV" "pod" with
    delete := [.node [("@id", .string "urn:a"), ("urn:name", .string "A")]]
    insert := [.node [("@id", .string "b"), ("urn:name", .string "B")]] }

/-- The request fails, and its deletion is left. -/
theorem left_by_failing_entries_of_relative :
    let engine : QueryEngine := fun _ => .ok ⟨none, []⟩
    let w : Workspace := ⟨.openAt replacingByRelative default, [], 0⟩
    let run := (stage engine [] ⟨1, 0⟩).run.run w
    replacingByRelative.hasRefs = false ∧ run.1 = .error (.invalidIri ⟨.subject, "b"⟩) ∧
      run.2.buffer.statistics = w.buffer.statistics ∧
      ∃ deletes inserts,
        LeavesDeletions engine [] w (.invalidIri ⟨.subject, "b"⟩) run.2.buffer deletes inserts := by
  intro engine w run
  have hfails : run.1 = .error (.invalidIri ⟨.subject, "b"⟩) := by decide +kernel
  have hchanged : run.2.buffer ≠ w.buffer := by decide +kernel
  have hrefs : w.buffer.request.hasRefs = false := rfl
  have hrun : (stage engine [] ⟨1, 0⟩).run.run w = (.error (.invalidIri ⟨.subject, "b"⟩), run.2) :=
    Prod.ext hfails rfl
  obtain ⟨hstatistics, hleft, -⟩ := left_by_failing_entries hrefs hrun
  exact ⟨hrefs, hfails, hstatistics, hleft.resolve_left hchanged⟩

/-- **A failure that changes the buffer**: the request can be processed and has no references, an
insertion is refused, and the buffer, which was empty, is left with the deletion. -/
theorem deletions_left_by_failure :
    let engine : QueryEngine := fun _ => .ok ⟨none, []⟩
    let w : Workspace := ⟨.openAt replacingByRelative default, [], 0⟩
    let run := (stage engine [] ⟨1, 0⟩).run.run w
    replacingByRelative.fault? = none ∧ replacingByRelative.hasRefs = false ∧
      run.1 = .error (.invalidIri ⟨.subject, "b"⟩) ∧ w.buffer.contents = [] ∧
      run.2.buffer.contents.map (fun x => (x.changeType, x.statement)) =
        [(.delete, Statement.ofLiteral "urn:a" "urn:name" "A" "" none none)] ∧
      run.2.buffer ≠ w.buffer := by
  decide +kernel

end Failing

end Materialize

end GraphLedger
