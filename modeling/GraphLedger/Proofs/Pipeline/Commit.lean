import GraphLedger.Proofs.Pipeline.Run
import GraphLedger.Proofs.Storage.Coverage

/-! # Committing a request

If no stores are given to a setup, its pipeline stores in the configured backends, in memory. They
stay what they are, whatever requests are processed or taken back: only their logs change. When a
request is committed, the storing stages have routed its records to them, and as the last storage
stage claims everything, nothing is left.

* `keeps_of_reaches`: the stores of a ledger are the configured backends.
* `run_memory`: a request fails early, or its records are routed.
* `commit_exactly_once`: each record of a committed request is stored once, in one backend. -/

namespace GraphLedger

/-- The ledgers that a pipeline comes to when requests are processed and taken back. -/
inductive Pipeline.Reaches (p : Pipeline) (l₀ : Ledger) : Ledger → Prop where
  | first : p.Reaches l₀ l₀
  | process {l : Ledger} (now : Instant) (r : Request) :
    p.Reaches l₀ l → p.Reaches l₀ (p.process now r l).2
  | rollback {l : Ledger} (podId requestId : String) :
    p.Reaches l₀ l → p.Reaches l₀ (l.rollback podId requestId).2

/-! ### Backends stay what they are -/

/-- The stores of a ledger are the configured backends, in memory. -/
structure Setup.Keeps (s : Setup) (l : Ledger) (backends : List Backend) : Prop where
  stores : l.stores = backends.map .memory
  routes : backends.map Backend.route = s.config.backends.map BackendConfig.route

theorem Setup.keeps_ledger {s : Setup} (hs : s.stores = []) :
    s.Keeps s.ledger (s.config.backends.map fun b => .new b.id b.selector) where
  stores := by
    rw [List.map_map]
    refine List.map_congr_left fun b _ => ?_
    rw [Setup.storeOf, Setup.given?, hs]
    rfl
  routes := by rw [List.map_map]; rfl

theorem RecordStore.rollbackAll_memory (podId requestId : String) (backends : List Backend) :
    (RecordStore.rollbackAll podId requestId (backends.map .memory)).2 =
      (backends.map fun m => m.rollback podId requestId).map .memory := by
  induction backends with
  | nil => rfl
  | cons m backends ih =>
    rw [List.map_cons, List.map_cons, List.map_cons, ← ih]
    rfl

theorem Setup.Keeps.rollback {s : Setup} {l : Ledger} {backends : List Backend}
    (h : s.Keeps l backends) (podId requestId : String) :
    s.Keeps (l.rollback podId requestId).2 (backends.map fun m => m.rollback podId requestId) where
  stores := by
    rw [← RecordStore.rollbackAll_memory, ← h.stores]
    rfl
  routes := by
    rw [← h.routes, List.map_map]
    rfl

namespace Setup.Builds
variable {s : Setup} {p : Pipeline} (h : s.Builds p)
include h

theorem nodup_of_keeps {l : Ledger} {backends : List Backend} (hk : s.Keeps l backends) :
    (backends.map Backend.id).Nodup := by
  rw [← Backend.map_fst_route, hk.routes, List.map_map]
  exact h.runnable.backendIds

theorem valid_prepared (now : Instant) (r : Request) (l : Ledger) :
    (p.prepared now r l).workspace.buffer.Valid :=
  (h.prepared_start now r l).valid (Buffer.valid_openAt r now)

/-- **A request in memory** fails before anything is stored, or all its records are routed. -/
theorem run_memory {l : Ledger} {backends : List Backend} (hk : s.Keeps l backends)
    (now : Instant) (r : Request) :
    (∃ e, (p.run now r l).1 = .error e ∧ (p.run now r l).2.stores = l.stores) ∨
      (p.run now r l).1 = .ok () ∧
        Routed s.config.routes backends (p.prepared now r l).workspace.buffer
          (p.run now r l).2 := by
  rcases h.error_or_chain now r l with herror | hrun
  · exact Or.inl herror
  · have hstores := (h.prepared_start now r l).stores
    have hsubset : s.config.routes ⊆ backends.map Backend.route :=
      hk.routes ▸ s.config.routes_subset
    obtain ⟨w, hw, hrouted⟩ := Run.stages_routed now (h.nodup_of_keeps hk) hsubset
      (hstores.trans hk.stores) (h.valid_prepared now r l)
    rw [Run.chain, h.storing_eq, hw] at hrun
    rw [hrun]
    exact Or.inr ⟨rfl, hrouted.notePreprocessed now⟩

theorem keeps_process {l : Ledger} {backends : List Backend} (hk : s.Keeps l backends)
    (now : Instant) (r : Request) : ∃ backends', s.Keeps (p.process now r l).2 backends' := by
  rcases h.run_memory hk now r with ⟨e, -, hstores⟩ | ⟨-, hrouted⟩
  · exact ⟨backends, hstores.trans hk.stores, hk.routes⟩
  · refine ⟨_, (hrouted.stores.trans (List.map_map ..).symm), ?_⟩
    rw [← hk.routes, List.map_map]
    exact List.map_congr_left fun m _ => Backend.route_receiving _ _ _

/-- **The stores of a ledger** are the configured backends, whatever has been processed. -/
theorem keeps_of_reaches (hs : s.stores = []) {l : Ledger} (hl : p.Reaches s.ledger l) :
    ∃ backends, s.Keeps l backends := by
  induction hl with
  | first => exact ⟨_, keeps_ledger hs⟩
  | process now r _ ih =>
    obtain ⟨backends, hk⟩ := ih
    exact h.keeps_process hk now r
  | rollback podId requestId _ ih =>
    obtain ⟨backends, hk⟩ := ih
    exact ⟨_, hk.rollback podId requestId⟩

end Setup.Builds

/-! ### Once and only once -/

/-- **Each record once.** When a pipeline that stores in memory and allows no partial coverage has
committed a request, the records that the buffer held before the first storing stage are stored,
each of them once, in one backend, under the pod of the request. Nothing else is stored, nothing is
left in the buffer, and the report tells how many records were inserted and deleted. -/
theorem commit_exactly_once {s : Setup} {p : Pipeline} (hb : s.build = .ok p)
    (hs : s.stores = []) (hpartial : s.config.allowPartialCoverage = false) {l : Ledger}
    (hl : p.Reaches s.ledger l) (now : Instant) (r : Request)
    (hc : (p.report now r l).status = .committed) :
    let records := (p.prepared now r l).workspace.buffer.contents
    ∃ (backends : List Backend) (share : Backend → List Record),
      l.stores = backends.map .memory ∧
      (p.process now r l).2.stores =
        backends.map (fun m => .memory (m.receiving r.podId (share m))) ∧
      (∀ m ∈ backends, (share m).Sublist records) ∧
      (backends.flatMap share).Perm records ∧
      records.Pairwise (fun x y => ¬ x.same y) ∧
      (∀ x ∈ records, ∃! m, m ∈ backends ∧ x ∈ share m) ∧
      (p.run now r l).2.workspace.buffer.contents = [] ∧
      (p.report now r l).statistics =
        ⟨records.countP Record.isInsert, records.countP Record.isDelete⟩ := by
  intro records
  have h := Setup.build_eq_ok_iff.mp hb
  have hprepared := h.prepared_start now r l
  have hok := (p.status_report_eq_committed_iff now r l).mp hc
  obtain ⟨backends, hk⟩ := h.keeps_of_reaches hs hl
  obtain ⟨e, he, -⟩ | ⟨-, hrouted⟩ := h.run_memory hk now r
  · rw [he] at hok; cases hok
  have hn := h.nodup_of_keeps hk
  have hall := h.runnable.exists_all hpartial
  have hsubset : s.config.routes ⊆ backends.map Backend.route :=
    hk.routes ▸ s.config.routes_subset
  have hrequest : (p.prepared now r l).workspace.buffer.request = r := hprepared.request
  refine ⟨backends, fun m => Route.share s.config.routes records m.id, hk.stores, ?_,
    fun m _ => List.filter_sublist, Route.flatMap_share_perm hall hsubset hn records,
    (h.valid_prepared now r l).contents_pairwise,
    fun x hx => Route.existsUnique_share hall hsubset hn hx, ?_, ?_⟩
  · rw [p.stores_process, hrouted.stores, hrequest]
  · exact hrouted.contents.trans (Route.rest_eq_nil hall records)
  · rw [p.statistics_report_of_ok now r l hok]
    exact hrouted.statistics_eq hall hprepared.statistics

/-- Of two documents, one backend claims a subject with a marker, and the other claims the rest; so
it was for an earlier request. -/
theorem commit_exactly_once_of_mark :
    let mark : Statement := ⟨"urn:a", "urn:p", .literal "1", "", none, none⟩
    let mate : Statement := ⟨"urn:a", "urn:q", .literal "2", "", none, none⟩
    let other : Statement := ⟨"urn:b", "urn:q", .literal "3", "", none, none⟩
    let config := { Config.standard with
      stages := [.materialize, .storage "marked", .storage "rest"]
      backends := [⟨"rest", .memory, none⟩, ⟨"marked", .memory, some "urn:p"⟩] }
    let s := { Setup.ofConfig config fun _ => .error (.query "") with
      loaders := [.memory [("new", [other, mate]), ("old", [mark])]] }
    let r := fun id => ((Request.new id "pod").withInsertRef ⟨"mem://new", none⟩).withDeleteRef
      ⟨"mem://old", none⟩
    let earlier := r "01ARZ3NDEKTSV4RRFFQ69G5FAV"
    let later := r "01BX5ZZKBKACTAV9WEVGEMMVRZ"
    ∃ p, s.build = .ok p ∧
      let l := (p.process ⟨0, 0⟩ earlier s.ledger).2
      (p.report ⟨0, 0⟩ later l).status = .committed ∧
      (p.report ⟨0, 0⟩ later l).statistics = ⟨2, 1⟩ ∧
      (p.run ⟨0, 0⟩ later l).2.workspace.buffer.contents = [] := by
  intro mark mate other config s r earlier later
  let p : Pipeline := ⟨[.process "materialize" (Materialize.stage (fun _ => .error (.query ""))
    s.loaders s.limits), .store "marked", .store "rest"], "rest", false⟩
  have hb : s.build = .ok p := rfl
  have hl : p.Reaches s.ledger (p.process ⟨0, 0⟩ earlier s.ledger).2 := .process _ _ .first
  have hc : (p.report ⟨0, 0⟩ later (p.process ⟨0, 0⟩ earlier s.ledger).2).status = .committed := by
    decide +kernel
  obtain ⟨_, _, -, -, -, -, -, -, hcontents, hstatistics⟩ :=
    commit_exactly_once hb rfl rfl hl ⟨0, 0⟩ later hc
  exact ⟨p, hb, hc, hstatistics.trans (by decide +kernel), hcontents⟩

end GraphLedger
