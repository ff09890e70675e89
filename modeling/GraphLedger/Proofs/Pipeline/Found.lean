import GraphLedger.Proofs.Pipeline.Causes
import GraphLedger.Proofs.Stage.Asserted
import GraphLedger.Proofs.Stage.Matched
import GraphLedger.Proofs.Storage.View

/-! # No match is hidden

Whether data has results is told by its fields and by the rows in them, and nothing deeper is looked
at. The nodes that the wildcard stands for are collected from any depth. The two agree all the same:
a node lies in a row or in a field of the data, which is not empty then. Only if the data is itself
a node there is no such row, and nothing but its own fields tells; if its `@id` is a string, that is
a result.

So a request is not without matches if its wildcard stands for such a node. Before its entries are
expanded nothing fails for want of matches, and behind that only its stores are left to fail.

* `isResultField_of_collected`: where there are nodes, there are results.
* `hasResults_of_collected`: which data with nodes has results.
* `Run.failing_of_stages`: why storing stages fail.
* `no_match_hidden`: data with nodes has results, and a request that finds nodes has matches. -/

namespace GraphLedger

open JsonLd

/-! ### Nodes and results -/

section Collected
variable {node : Json.Fields}

theorem mem_collectItems {vs : List Json} :
    node ∈ collectItems vs ↔ ∃ v ∈ vs, node ∈ collectNodes v := by
  induction vs with
  | nil => simp [collectItems]
  | cons v vs ih => rw [collectItems, List.mem_append, ih, List.exists_mem_cons_iff]

theorem mem_collectFields {fs : Json.Fields} :
    node ∈ collectFields fs ↔ ∃ f ∈ fs, node ∈ collectNodes f.2 := by
  induction fs with
  | nil => simp [collectFields]
  | cons f fs ih => rw [collectFields, List.mem_append, ih, List.exists_mem_cons_iff]

theorem not_mem_collectNodes_empty : node ∉ collectNodes (.object []) := List.not_mem_nil

theorem isBoundRow_of_collected {v : Json} (h : node ∈ collectNodes v) : isBoundRow v = true := by
  unfold isBoundRow
  split
  · exact absurd h not_mem_collectNodes_empty
  · rfl

theorem any_isBoundRow_of_collected {rows : List Json} (h : node ∈ collectNodes (.array rows)) :
    rows.any isBoundRow = true := by
  obtain ⟨row, hrow, hnode⟩ := mem_collectItems.mp h
  exact List.any_eq_true.mpr ⟨row, hrow, isBoundRow_of_collected hnode⟩

/-- **Where there are nodes, there are results.** -/
theorem isResultField_of_collected {v : Json} (h : node ∈ collectNodes v) :
    isResultField v = true := by
  unfold isResultField
  split
  · exact absurd h List.not_mem_nil
  · exact any_isBoundRow_of_collected h
  · exact absurd h not_mem_collectNodes_empty
  · rfl

/-- **Data with nodes has results**, unless it is itself the node and none of its fields is a
result. -/
theorem hasResults_of_collected {data : Json} (h : node ∈ collectNodes data) :
    hasResults data = true ∨ data = .object node ∧ ∀ f ∈ node, isResultField f.2 = false := by
  cases data with
  | array rows => exact Or.inl (any_isBoundRow_of_collected h)
  | object fs =>
    by_cases hid : Json.Fields.has fs "@id" = true
    · rw [collectNodes, if_pos hid, List.mem_singleton] at h
      subst h
      by_cases hresults : hasResults (.object node) = true
      · exact Or.inl hresults
      · refine Or.inr ⟨rfl, fun f hf => ?_⟩
        by_contra hfield
        exact hresults (List.any_eq_true.mpr ⟨f, hf, Bool.not_eq_false _ ▸ hfield⟩)
    · rw [collectNodes, if_neg hid] at h
      obtain ⟨f, hf, hnode⟩ := mem_collectFields.mp h
      exact Or.inl (List.any_eq_true.mpr ⟨f, hf, isResultField_of_collected hnode⟩)
  | _ => exact absurd h List.not_mem_nil

/-- A node whose `@id` is a string. -/
def IsNamed (node : Json.Fields) : Prop := ∃ id, Json.Fields.get? node "@id" = some (.string id)

theorem hasResults_of_isNamed {data : Json} (h : node ∈ collectNodes data) (hid : IsNamed node) :
    hasResults data = true := by
  rcases hasResults_of_collected h with hresults | ⟨-, hfields⟩
  · exact hresults
  · -- the identifier is a field of the data
    obtain ⟨id, hget⟩ := hid
    obtain ⟨before, after, rfl, -⟩ := List.lookup_eq_some_iff.mp hget
    have hfield : isResultField (.string id) = false :=
      hfields ("@id", .string id) (List.mem_append_right _ List.mem_cons_self)
    cases hfield

end Collected

/-! ### Finding nodes -/

namespace Materialize
variable {engine : QueryEngine} {r : Request}

/-- **A request finds a node** if its query is answered without errors, and the wildcard among its
entries is expanded to nodes among which there is one whose `@id` is a string. -/
def FindsNode (engine : QueryEngine) (r : Request) : Prop :=
  ∃ answer entry expanded, Materialize.answer engine r = .ok answer ∧
    entry ∈ r.delete ++ r.insert ∧ entry.isWildcard = true ∧
    expandEntry answer entry = .ok expanded ∧ ∃ node ∈ expanded.nodes, IsNamed node

namespace FindsNode
variable (h : FindsNode engine r)
include h

theorem not_fruitless : ∃ answer, Materialize.answer engine r = .ok answer ∧
    ¬ Fruitless r answer := by
  obtain ⟨answer, entry, ⟨nodes, count⟩, hanswer, -, hwildcard, hexpanded, node, hnode, hid⟩ := h
  refine ⟨answer, hanswer, ?_⟩
  rintro ⟨-, data, rfl, hresults⟩
  have hstands : StandsFor (some data) entry nodes := standsFor_of_expandEntry hexpanded
  cases hstands with
  | node answer fs => cases hwildcard
  | wildcard data _ =>
    rw [hasResults_of_isNamed hnode hid] at hresults
    cases hresults
  | template hnot _ =>
    rw [hwildcard] at hnot
    cases hnot

theorem hasEntries : r.hasEntries = true := by
  obtain ⟨-, entry, -, -, hmem, -⟩ := h
  unfold Request.hasEntries
  rcases List.mem_append.mp hmem with hdelete | hinsert
  · rw [List.isEmpty_eq_false_iff_exists_mem.mpr ⟨entry, hdelete⟩, Bool.not_false, Bool.or_true]
  · rw [List.isEmpty_eq_false_iff_exists_mem.mpr ⟨entry, hinsert⟩, Bool.not_false, Bool.true_or]

/-- **It is not without matches** that its entries fail. -/
theorem status_of_run_stage {loaders : List Loader} {limits : Limits} {w : Workspace}
    (hr : r.fault? = none) (hw : w.buffer.request = r) {e : Failure}
    (he : ((stage engine loaders limits).run.run w).1 = .error e) : e.status ≠ .noMatches := by
  intro hstatus
  have hfault : e.status ≠ .validationError := by
    rw [hstatus]
    decide
  obtain ⟨answer, hanswer, hfruitful⟩ := h.not_fruitless
  subst hw
  have hexpand := (run_stage_eq_error_iff hr h.hasEntries hanswer hfault).1.mp he
  rcases (expandRequest_eq_error_iff hfault).mp hexpand with ⟨hfruitless, -⟩ | ⟨-, n, -, -, rfl⟩
  · exact hfruitful hfruitless
  · cases hstatus

end FindsNode

end Materialize

/-! ### Stages -/

theorem Assertion.status_of_decided {engine : QueryEngine} {index : Nat} {a : Assertion}
    {e : Failure} (h : a.decided engine index = .error e) :
    e.status = .assertionFailed ∨ e.status = .validationError := by
  have hverdict : ∀ {data}, a.verdict index data = .error e →
      e.status = .assertionFailed ∨ e.status = .validationError := by
    intro data hdata
    unfold verdict at hdata
    split at hdata
    · split at hdata <;> cases hdata
      exact Or.inl rfl
    · split at hdata <;> cases hdata
      exact Or.inl rfl
    · cases hdata
      exact Or.inr rfl
  unfold decided at h
  split at h
  · unfold outcome at h
    split at h
    · exact hverdict h
    · cases h
      exact Or.inr rfl
  · exact hverdict h

theorem Assertion.status_of_run_stage {engine : QueryEngine} {parallelism : Nat} {w : Workspace}
    {e : Failure} (he : ((stage engine parallelism).run.run w).1 = .error e) :
    e.status ≠ .noMatches := by
  obtain ⟨before, a, -, -, -, hfails, -⟩ := run_stage_eq_error_iff.mp (Prod.ext he rfl)
  rcases status_of_decided (failsWith_iff.mp hfails) with hstatus | hstatus <;>
    rw [hstatus] <;> decide

theorem Step.OnlyAdds.meets {step : Step Unit} (h : step.OnlyAdds) {r : Request}
    {Q : Failure → Prop}
    (hfails : ∀ w : Workspace, w.buffer.request = r → ∀ e, (step.run.run w).1 = .error e → Q e) :
    step.Meets r (fun _ => True) Q := by
  intro w hw
  obtain ⟨rs, -, hbuffer⟩ := h w
  refine ⟨by rw [hbuffer, Buffer.request_add, hw], ?_⟩
  cases hrun : (step.run.run w).1 with
  | ok u => trivial
  | error e => exact hfails w hw e hrun

/-! ### Stores -/

theorem RecordStore.failing_of_commitIn {id : String} {stores : List RecordStore} {b : Buffer}
    {e : Failure} (h : commitIn id stores b = .error e) : ∃ own, .failing own e ∈ stores := by
  induction stores with
  | nil => cases h
  | cons s stores ih =>
    rw [commitIn] at h
    split at h
    · cases s with
      | memory m => cases h
      | failing own e' =>
        cases h
        exact ⟨own, List.mem_cons_self⟩
    · cases hrest : commitIn id stores b with
      | ok out =>
        rw [hrest] at h
        cases h
      | error e' =>
        rw [hrest] at h
        cases h
        obtain ⟨own, hmem⟩ := ih hrest
        exact ⟨own, List.mem_cons_of_mem s hmem⟩

theorem RecordStore.failing_mem_of_commitIn {id own : String} {stores stores' : List RecordStore}
    {b b' : Buffer} {e : Failure} (h : commitIn id stores b = .ok (stores', b'))
    (hmem : .failing own e ∈ stores') : .failing own e ∈ stores := by
  rcases RecordStore.commitIn_cases_of_ok h with ⟨rfl, -⟩ | ⟨m, before, after, rfl, rfl, -⟩
  · exact hmem
  · rcases List.mem_append.mp hmem with hbefore | hafter
    · exact List.mem_append_left _ hbefore
    · rcases List.mem_cons.mp hafter with heq | hafter
      · cases heq
      · exact List.mem_append_right _ (List.mem_cons_of_mem _ hafter)

/-- **Storing stages** fail only if one of the stores fails of its own, by induction on the
stages. -/
theorem Run.failing_of_stages (now : Instant) {ss : List Stage} {r : Run}
    (hss : ∀ s ∈ ss, s.isStorage = true) {e : Failure} (he : (stages now ss r).1 = .error e) :
    ∃ own, .failing own e ∈ r.stores := by
  induction ss generalizing r with
  | nil => cases he
  | cons s ss ih =>
    obtain ⟨hs, hrest⟩ := List.forall_mem_cons.mp hss
    cases s with
    | process name step => cases hs
    | store id =>
      rw [stages, stage, store] at he
      simp only [stores_notePreprocessed, workspace_notePreprocessed] at he
      cases hc : RecordStore.commitIn id r.stores r.workspace.buffer with
      | error e' =>
        rw [hc] at he
        cases he
        exact RecordStore.failing_of_commitIn hc
      | ok out =>
        rw [hc] at he
        obtain ⟨own, hmem⟩ := ih hrest he
        exact ⟨own, RecordStore.failing_mem_of_commitIn hc hmem⟩

/-! ### Requests -/

namespace Setup.Builds
variable {s : Setup} {p : Pipeline} {engine : QueryEngine} {r : Request} (h : s.Builds p)
  (hengine : s.engine = some engine) (hfinds : Materialize.FindsNode engine r)
include h hengine hfinds

/-- **Preparing stages** do not fail without matches. -/
theorem preparing_finds (hr : r.fault? = none) {stage : Stage} (hs : stage ∈ p.preparing) :
    ∃ name step, stage = .process name step ∧
      step.Meets r (fun _ => True) fun e => e.status ≠ .noMatches := by
  obtain ⟨name, step, rfl, hadds⟩ := h.preparing_onlyAdds hs
  obtain ⟨id, -, hresolve⟩ := h.resolved _ ((List.takeWhile_prefix _).subset hs)
  have hrequire : s.requireEngine = .ok engine := by rw [requireEngine, hengine]
  cases id with
  | assertions =>
    rw [resolveStage, hrequire] at hresolve
    cases hresolve
    exact ⟨_, _, rfl, hadds.meets fun w _ e he => Assertion.status_of_run_stage he⟩
  | materialize =>
    rw [resolveStage, hrequire] at hresolve
    cases hresolve
    exact ⟨_, _, rfl, hadds.meets fun w hw e he => hfinds.status_of_run_stage hr hw he⟩
  | conformance =>
    cases hresolve
    refine ⟨_, _, rfl, .bind .buffer fun b _ => .ofExcept (fun _ _ => trivial) fun e he => ?_⟩
    rw [Conformance.status_of_check he]
    decide
  | storage b =>
    rcases resolveStage_cases Step.kept_onlyAdds hresolve with ⟨b', -, hstage⟩ | ⟨hid, -⟩
    · cases hstage
    · cases hid

/-- **A request that finds a node** fails without matches only if one of the stores does. -/
theorem failing_of_noMatches (now : Instant) (l : Ledger) {e : Failure}
    (he : (p.run now r l).1 = .error e) (hstatus : e.status = .noMatches) :
    ∃ own, .failing own e ∈ l.stores := by
  rcases p.run_cases now r l with ⟨fault, -, hrun⟩ | ⟨e', hf, hstages, hrun⟩ | ⟨-, -, hrun⟩
  · rw [hrun] at he
    cases he
    cases hstatus
  · rw [hrun] at he
    cases he
    exact absurd hstatus (Run.causedBy_stages now (fun _ => h.preparing_finds hengine hfinds hf) rfl
      (congrArg Prod.fst hstages))
  · rw [hrun, Run.fst_chain] at he
    obtain ⟨own, hmem⟩ := Run.failing_of_stages now (fun _ => h.isStorage_of_mem_storing) he
    rw [(h.prepared_start now r l).stores] at hmem
    exact ⟨own, hmem⟩

end Setup.Builds

/-- **No match is hidden.** Data has results, of whatever shape it is, if a node is collected from it
whose `@id` is a string. Hence a request does not end without matches if its wildcard would be
expanded to such a node. (That the query matched nothing is not for a store to say that fails of its
own, and stores in memory do not fail.) -/
theorem no_match_hidden :
    (∀ data, (∃ node ∈ collectNodes data, IsNamed node) → hasResults data = true) ∧
    ∀ (s : Setup) (p : Pipeline) (engine : QueryEngine), s.build = .ok p →
      s.engine = some engine → ∀ (now : Instant) (r : Request) (l : Ledger),
        (∀ own e, .failing own e ∈ l.stores → e.status ≠ .noMatches) →
        Materialize.FindsNode engine r → (p.report now r l).status ≠ .noMatches := by
  constructor
  · rintro data ⟨node, hnode, hid⟩
    exact hasResults_of_isNamed hnode hid
  · intro s p engine hb hengine now r l hstores hfinds hstatus
    have h := Setup.build_eq_ok_iff.mp hb
    cases hrun : (p.run now r l).1 with
    | ok u =>
      rw [(p.status_report_eq_committed_iff now r l).mpr hrun] at hstatus
      cases hstatus
    | error e =>
      rw [(p.report_of_error now r l hrun).1] at hstatus
      obtain ⟨own, hmem⟩ := h.failing_of_noMatches hengine hfinds now l hrun hstatus
      exact hstores own e hmem hstatus

/-- A request to insert all that its query finds. -/
def addingFound : Request :=
  { Request.new "01ARZ3NDEKTSV4RRFFQ69G5FAV" "pod" with
    query := some "people"
    insert := [.template "*"] }

/-- What is found lies deep in the answer, and its other fields are empty. The request is committed.
-/
theorem no_match_hidden_of_deep :
    let data : Json := .object [("none", .null), ("page", .object
      [("rows", .array [.object [], .object
        [("node", .object [("@id", .string "urn:a"), ("urn:p", .string "x")])]])])]
    let engine : QueryEngine := fun _ => .ok ⟨some data, []⟩
    let s := Setup.ofConfig Config.standard engine
    ∃ p, s.build = .ok p ∧ hasResults data = true ∧ Materialize.FindsNode engine addingFound ∧
      (p.report ⟨0, 0⟩ addingFound s.ledger).status ≠ .noMatches ∧
      (p.report ⟨0, 0⟩ addingFound s.ledger).status = .committed := by
  intro data engine s
  let p : Pipeline := ⟨[.process "assertions" (Assertion.stage engine s.config.assertionParallelism),
    .process "materialize" (Materialize.stage engine s.loaders s.limits),
    .process "conformance" (Conformance.stage s.schemas), .store "default"], "default", false⟩
  have hb : s.build = .ok p := rfl
  have hstores : ∀ own e, .failing own e ∈ s.ledger.stores → e.status ≠ .noMatches := by
    intro own e hmem
    cases List.mem_singleton.mp hmem
  let node : Json.Fields := [("@id", .string "urn:a"), ("urn:p", .string "x")]
  have hnode : IsNamed node := ⟨"urn:a", rfl⟩
  have hfinds : Materialize.FindsNode engine addingFound :=
    ⟨some data, .template "*", ⟨[node], 1⟩, rfl, List.mem_cons_self, by decide +kernel,
      by rfl, node, List.mem_cons_self, hnode⟩
  obtain ⟨hresults, hmatches⟩ := no_match_hidden
  have hcollected : node ∈ collectNodes data := List.mem_cons_self
  exact ⟨p, hb, hresults data ⟨node, hcollected, hnode⟩, hfinds,
    hmatches s p engine hb rfl ⟨0, 0⟩ addingFound s.ledger hstores hfinds, by decide +kernel⟩

end GraphLedger
