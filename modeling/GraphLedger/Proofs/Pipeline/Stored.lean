import GraphLedger.Proofs.Pipeline.Commit
import GraphLedger.Proofs.Storage.Shares

/-! # What a request stores

The stores of a pipeline may be given from outside, and then they need not be in memory, nor claim
what the configuration says. They keep their identifiers, whatever is processed or taken back, and a
request that is committed has handed its records out to them. These are the records that its steps
have added to the buffer, so they belong to the request, and their statements are valid.

* `Builds.nodup_of_reaches`: the stores of a ledger are told apart by their identifiers.
* `Builds.shared_of_committed`: what a committed request hands out is a share for each store.
* `Builds.exists_appends`: what any request appends to stores in memory. -/

namespace GraphLedger

/-! ### Stores keep their identifiers -/

theorem RecordStore.map_id_rollbackAll (podId requestId : String) (stores : List RecordStore) :
    (rollbackAll podId requestId stores).2.map RecordStore.id = stores.map RecordStore.id := by
  induction stores with
  | nil => rfl
  | cons s stores ih =>
    cases s with
    | failing id e => rfl
    | memory m =>
      simp only [rollbackAll, rollback, List.map_cons, ih]
      rfl

namespace Run
variable (now : Instant)

theorem map_id_stages (ss : List Stage) (r : Run) :
    (stages now ss r).2.stores.map RecordStore.id = r.stores.map RecordStore.id := by
  refine stages_rel now
    (R := fun r r' => r'.stores.map RecordStore.id = r.stores.map RecordStore.id)
    (fun _ => rfl) (fun h₁ h₂ => h₂.trans h₁) (fun s _ r => ?_) r
  cases s with
  | process name step => rfl
  | store id =>
    simp only [stage, store, stores_notePreprocessed, workspace_notePreprocessed]
    cases hc : RecordStore.commitIn id r.stores r.workspace.buffer with
    | error e => simp
    | ok out => exact RecordStore.map_id_commitIn hc

end Run

theorem Pipeline.map_id_process (p : Pipeline) (now : Instant) (r : Request) (l : Ledger) :
    (p.process now r l).2.stores.map RecordStore.id = l.stores.map RecordStore.id := by
  rw [p.stores_process, run]
  split
  · rfl
  · rw [Run.stores_chain]
    exact Run.map_id_stages now p.stages _

theorem Setup.map_id_allStores (s : Setup) :
    s.allStores.map RecordStore.id = s.config.backends.map BackendConfig.id := by
  rw [allStores, List.map_map]
  refine List.map_congr_left fun b _ => ?_
  rw [Function.comp, storeOf]
  cases hg : s.given? b.id with
  | none => rfl
  | some store => simpa [given?] using List.find?_some hg

namespace Setup.Builds
variable {s : Setup} {p : Pipeline} (h : s.Builds p)
include h

/-- **Stores are told apart** by their identifiers, whatever has been processed. -/
theorem nodup_of_reaches {l : Ledger} (hl : p.Reaches s.ledger l) :
    (l.stores.map RecordStore.id).Nodup := by
  have hids : l.stores.map RecordStore.id = s.config.backends.map BackendConfig.id := by
    induction hl with
    | first => exact s.map_id_allStores
    | process now r _ ih => exact (p.map_id_process now r _).trans ih
    | rollback podId requestId _ ih => exact (RecordStore.map_id_rollbackAll _ _ _).trans ih
  rw [hids]
  exact h.runnable.backendIds

/-- **What a committed request stores** is a share for each store. -/
theorem shared_of_committed {l : Ledger} (hn : (l.stores.map RecordStore.id).Nodup) {now : Instant}
    {r : Request} (hok : (p.run now r l).1 = .ok ()) :
    ∃ share, Shared l.stores (p.prepared now r l).workspace.buffer (p.run now r l).2.stores
      (p.run now r l).2.workspace.buffer share := by
  have hprepared := h.prepared_start now r l
  rcases h.error_or_chain now r l with ⟨e, he, -⟩ | hrun
  · rw [he] at hok; cases hok
  have hstages : (Run.stages now p.storing (p.prepared now r l)).1 = .ok () := by
    rw [← Run.fst_chain, ← hrun, hok]
  have hprepn : ((p.prepared now r l).stores.map RecordStore.id).Nodup := by
    rw [hprepared.stores]
    exact hn
  obtain ⟨share, hshared⟩ := Run.shared_stages now (fun _ => h.isStorage_of_mem_storing) hprepn
    (h.valid_prepared now r l) hstages
  rw [hprepared.stores] at hshared
  rw [hrun, Run.stores_chain, Run.workspace_chain]
  exact ⟨share, hshared⟩

end Setup.Builds

/-! ### What a request appends -/

theorem Shared.subset_contents {stores stores' : List RecordStore} {b b' : Buffer}
    {share : String → List Record} (h : Shared stores b stores' b' share) :
    handedOut stores share ⊆ b.contents := by
  intro x hx
  have hof : x ∈ ofSubject (handedOut stores share) x.statement.subject :=
    List.mem_filter.mpr ⟨hx, by simp⟩
  rcases h.whole x.statement.subject with ⟨hnone, -⟩ | ⟨hall, -⟩
  · rw [hnone] at hof
    cases hof
  · rw [hall] at hof
    exact (List.mem_filter.mp hof).1

/-- Processing a request appends a share of its records to each store, under the pod of the request.
The records are valid, and the report counts all of them. -/
structure Pipeline.Appends (p : Pipeline) (now : Instant) (r : Request) (l : Ledger)
    (share : String → List Record) : Prop where
  stores : (p.process now r l).2.stores =
    l.stores.map fun s => s.receiving r.podId (share s.id)
  request : ∀ s ∈ l.stores, ∀ x ∈ share s.id, x.changeRequestId = r.id
  valid : ∀ s ∈ l.stores, ∀ x ∈ share s.id, x.statement.invalid? = none
  counted : ∀ t, (handedOut l.stores share).countP (fun x => x.changeType = t) =
    (p.report now r l).statistics.count t

namespace Setup.Builds
variable {s : Setup} {p : Pipeline} (h : s.Builds p) (now : Instant) (r : Request) (l : Ledger)
include h

theorem exists_mints_of_mem_prepared {x : Record}
    (hx : x ∈ (p.prepared now r l).workspace.buffer.contents) :
    ∃ y, (Buffer.openAt r now).Mints y ∧ y.same x := by
  obtain ⟨rs, hmints, hb⟩ := (h.prepared_start now r l).added
  have hv : (Buffer.openAt r now).Valid := Buffer.valid_openAt r now
  have hb : (p.prepared now r l).workspace.buffer = (Buffer.openAt r now).add rs := hb
  have hholds : ((Buffer.openAt r now).add rs).holds x :=
    (hv.add rs).holds_iff.mpr ⟨x, hb ▸ hx, Record.same_refl x⟩
  rcases (hv.holds_add rs x).mp hholds with hnone | ⟨y, hy, hsame⟩
  · obtain ⟨z, hz, -⟩ := hv.holds_iff.mp hnone
    cases hz
  · exact ⟨y, hmints y hy, hsame⟩

variable {x : Record}

theorem changeRequestId_of_mem_prepared
    (hx : x ∈ (p.prepared now r l).workspace.buffer.contents) : x.changeRequestId = r.id := by
  obtain ⟨y, hy, hsame⟩ := h.exists_mints_of_mem_prepared now r l hx
  rw [← (Record.same_iff.mp hsame).1]
  exact hy.request

theorem invalid?_of_mem_prepared
    (hx : x ∈ (p.prepared now r l).workspace.buffer.contents) : x.statement.invalid? = none := by
  obtain ⟨y, hy, hsame⟩ := h.exists_mints_of_mem_prepared now r l hx
  rw [← (Record.same_iff.mp hsame).2.2]
  exact hy.statement

variable {l} (hn : (l.stores.map RecordStore.id).Nodup)
  (hm : ∀ store ∈ l.stores, ∃ m, store = .memory m)
include hn hm

/-- **What any request appends** to stores in memory. A request that fails appends nothing. -/
theorem exists_appends : ∃ share, p.Appends now r l share := by
  rcases h.error_or_ok_of_memory now r l hm with ⟨e, he, hstores⟩ | hok
  · refine ⟨fun _ => [], by rw [p.stores_process, hstores]; simp, by simp, by simp, fun t => ?_⟩
    rw [p.statistics_report_of_error now r l he]
    cases t <;> simp [handedOut, Statistics.count]
  · obtain ⟨share, hshared⟩ := h.shared_of_committed hn hok
    have hprepared := h.prepared_start now r l
    have hmem : ∀ s ∈ l.stores, ∀ x ∈ share s.id,
        x ∈ (p.prepared now r l).workspace.buffer.contents := fun s hs x hx =>
      hshared.subset_contents (List.mem_flatMap.mpr ⟨s, hs, hx⟩)
    refine ⟨share, ?_, fun s hs x hx => h.changeRequestId_of_mem_prepared now r l (hmem s hs x hx),
      fun s hs x hx => h.invalid?_of_mem_prepared now r l (hmem s hs x hx), fun t => ?_⟩
    · rw [p.stores_process, hshared.received, hprepared.request]
      rfl
    · rw [p.statistics_report_of_ok now r l hok, hshared.counted t, hprepared.statistics]
      cases t <;> exact (Nat.zero_add _).symm

theorem memory_process : ∀ store ∈ (p.process now r l).2.stores, ∃ m, store = .memory m := by
  obtain ⟨share, hshare⟩ := h.exists_appends now r hn hm
  rw [hshare.stores, List.forall_mem_map]
  intro store hstore
  obtain ⟨m, rfl⟩ := hm store hstore
  exact ⟨_, rfl⟩

end Setup.Builds

end GraphLedger
