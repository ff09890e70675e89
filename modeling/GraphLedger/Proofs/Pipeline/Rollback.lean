import GraphLedger.Proofs.Pipeline.Stored
import GraphLedger.Proofs.Storage.Withdraw

/-! # Taking a request back

Taking a request back removes its records from every store in memory, whichever store they were
handed out to, and leaves the records of other requests and other pods where they are. As a request
only ever appends records with its own identifier under its own pod, taking it back right after it
was processed undoes it, if it was the first with its identifier in its pod.

* `Ledger.rollback_eq`: what taking back does to a ledger.
* `Appends.length_handedOut`: how many records a request has appended.
* `Setup.Builds.rollback_process`: taking back right after processing.
* `rollback_inverts_process`: taking back inverts processing, and touches nothing else. -/

namespace GraphLedger

/-! ### All backends of a ledger -/

theorem RecordStore.fst_rollbackAll_memory (podId requestId : String) (backends : List Backend) :
    (RecordStore.rollbackAll podId requestId (backends.map .memory)).1 =
      .ok (backends.flatMap fun m => m.recordsOf podId requestId).length := by
  induction backends with
  | nil => rfl
  | cons m backends ih =>
    rw [List.map_cons, List.flatMap_cons, List.length_append, ← Backend.rollbackCount_eq]
    simp only [rollbackAll, rollback, ih]
    rfl

/-- **Taking back** asks every store in memory for the records of the request, and says how many
there were in all. -/
theorem Ledger.rollback_eq {l : Ledger} {backends : List Backend}
    (hl : l.stores = backends.map .memory) (podId requestId : String) :
    l.rollback podId requestId =
      (.ok (backends.flatMap fun m => m.recordsOf podId requestId).length,
        { l with stores := (backends.map fun m => m.rollback podId requestId).map .memory }) := by
  unfold rollback
  rw [hl]
  refine Prod.ext ?_ ?_
  · exact RecordStore.fst_rollbackAll_memory podId requestId backends
  · exact congrArg (fun stores => { l with stores := stores })
      (RecordStore.rollbackAll_memory podId requestId backends)

/-! ### Processing and taking back -/

theorem countP_insert_add_countP_delete (rs : List Record) :
    (rs.countP fun x => x.changeType = .insert) + (rs.countP fun x => x.changeType = .delete) =
      rs.length := by
  rw [List.length_eq_countP_add_countP fun x => decide (x.changeType = .insert)]
  congr 1
  exact List.countP_congr fun x _ => by cases x.changeType <;> simp

theorem Pipeline.Appends.length_handedOut {p : Pipeline} {now : Instant} {r : Request} {l : Ledger}
    {share : String → List Record} (h : p.Appends now r l share) :
    (handedOut l.stores share).length =
      (p.report now r l).statistics.inserts + (p.report now r l).statistics.deletes := by
  rw [← countP_insert_add_countP_delete, h.counted, h.counted]
  rfl

/-- **Taking back right after processing** gives the backends the records that they had, if there
was none of the request before. -/
theorem Setup.Builds.rollback_process {s : Setup} {p : Pipeline} (h : s.Builds p) {l : Ledger}
    {backends : List Backend} (hl : l.stores = backends.map .memory)
    (hids : backends.map Backend.id = s.config.backends.map BackendConfig.id) (now : Instant)
    {r : Request} (hnone : ∀ m ∈ backends, ∀ x ∈ m.log.ofPod r.podId, x.changeRequestId ≠ r.id) :
    let report := p.report now r l
    let undone := (p.process now r l).2.rollback r.podId r.id
    undone.1 = .ok (report.statistics.inserts + report.statistics.deletes) ∧
      ∃ backends', undone.2.stores = backends'.map .memory ∧
        List.Forall₂ Backend.Alike backends backends' := by
  intro report undone
  have hn : (l.stores.map RecordStore.id).Nodup := by
    have hmap : l.stores.map RecordStore.id = backends.map Backend.id := by
      rw [hl, List.map_map]
      rfl
    rw [hmap, hids]
    exact h.runnable.backendIds
  have hm : ∀ store ∈ l.stores, ∃ m, store = .memory m := by
    rw [hl, List.forall_mem_map]
    exact fun m _ => ⟨m, rfl⟩
  obtain ⟨share, hshare⟩ := h.exists_appends now r hn hm
  -- what is appended is taken back from where it was appended
  have hstores : (p.process now r l).2.stores =
      (backends.map fun m => m.receiving r.podId (share m.id)).map .memory := by
    rw [hshare.stores, hl, List.map_map, List.map_map]
    rfl
  have hshareid : ∀ m ∈ backends, ∀ x ∈ share m.id, x.changeRequestId = r.id := fun m hm =>
    hshare.request (.memory m) (hl ▸ List.mem_map_of_mem hm)
  have hundone : undone = _ := Ledger.rollback_eq hstores r.podId r.id
  rw [hundone]
  refine ⟨?_, _, rfl, ?_⟩
  · have hrecords : ∀ m ∈ backends,
        (m.receiving r.podId (share m.id)).recordsOf r.podId r.id = share m.id :=
      fun m hm => Backend.recordsOf_receiving (hnone m hm) (hshareid m hm)
    dsimp only
    rw [List.flatMap_map, List.flatMap_congr hrecords, ← hshare.length_handedOut, handedOut, hl,
      List.flatMap_map]
    rfl
  · rw [List.map_map, List.forall₂_map_right_iff]
    refine List.forall₂_same.mpr fun m hm => ?_
    exact (Backend.withdrawn_rollback _ _ _).alike_of_receiving (hnone m hm) (hshareid m hm)

/-- **Taking back twice** takes nothing more than taking back once. -/
theorem Ledger.rollback_rollback {l : Ledger} {backends : List Backend}
    (hl : l.stores = backends.map .memory) (podId requestId : String) :
    ((l.rollback podId requestId).2.rollback podId requestId).1 = .ok 0 := by
  have hnothing : ∀ m ∈ backends, (m.rollback podId requestId).recordsOf podId requestId = [] :=
    fun m _ => (m.withdrawn_rollback podId requestId).recordsOf
  rw [rollback_eq hl, rollback_eq rfl, List.flatMap_map, List.flatMap_eq_nil_iff.mpr hnothing]
  rfl

/-- **Taking back inverts processing**, and touches nothing else. When all stores are in memory and
a request is processed of whose identifier its pod has no record yet, then taking the request back
gives every backend the records that it had, and says how many records the report has counted.
Taking any request back at any time removes its records from every backend, leaves all others where
they were, and says how many it has removed; after that there are none left to remove. -/
theorem rollback_inverts_process {s : Setup} {p : Pipeline} (hb : s.build = .ok p) {l : Ledger}
    {backends : List Backend} (hl : l.stores = backends.map .memory)
    (hids : backends.map Backend.id = s.config.backends.map BackendConfig.id) :
    (∀ (now : Instant) (r : Request),
      (∀ m ∈ backends, ∀ x ∈ m.log.ofPod r.podId, x.changeRequestId ≠ r.id) →
        let report := p.report now r l
        let undone := (p.process now r l).2.rollback r.podId r.id
        ((∃ log, l.reports = .memory log) → (p.process now r l).1 = .ok report) ∧
          undone.1 = .ok (report.statistics.inserts + report.statistics.deletes) ∧
            ∃ backends', undone.2.stores = backends'.map .memory ∧
              List.Forall₂ Backend.Alike backends backends') ∧
    ∀ podId requestId : String, ∃ backends' : List Backend,
      l.rollback podId requestId =
        (.ok (backends.flatMap fun m => m.recordsOf podId requestId).length,
          { l with stores := backends'.map .memory }) ∧
      List.Forall₂ (Backend.Withdrawn podId requestId) backends backends' ∧
      ((l.rollback podId requestId).2.rollback podId requestId).1 = .ok 0 := by
  have h := Setup.build_eq_ok_iff.mp hb
  refine ⟨fun now r hnone => ⟨?_, h.rollback_process hl hids now hnone⟩, fun podId requestId => ?_⟩
  · rintro ⟨log, hlog⟩
    rw [p.process_eq, hlog]
    rfl
  · exact ⟨_, Ledger.rollback_eq hl podId requestId,
      Backend.forall₂_withdrawn podId requestId backends, Ledger.rollback_rollback hl _ _⟩

/-- A request is handed out to two backends, past one in which no stage stores, and taken back; a
request with its identifier in another pod keeps its records. -/
theorem rollback_inverts_process_of_other_pod :
    let mark : Statement := ⟨"urn:a", "urn:p", .literal "1", "", none, none⟩
    let mate : Statement := ⟨"urn:a", "urn:q", .literal "2", "", none, none⟩
    let other : Statement := ⟨"urn:b", "urn:q", .literal "3", "", none, none⟩
    let config := { Config.standard with
      stages := [.materialize, .storage "marked", .storage "rest"]
      backends := [⟨"rest", .memory, none⟩, ⟨"spare", .memory, none⟩,
        ⟨"marked", .memory, some "urn:p"⟩] }
    let s := { Setup.ofConfig config fun _ => .error (.query "") with
      loaders := [.memory [("new", [other, mate]), ("old", [mark])]] }
    let id := "01ARZ3NDEKTSV4RRFFQ69G5FAV"
    let r := fun podId => ((Request.new id podId).withInsertRef ⟨"mem://new", none⟩).withDeleteRef
      ⟨"mem://old", none⟩
    ∃ p, s.build = .ok p ∧
      let l := (p.process ⟨0, 0⟩ (r "other") s.ledger).2
      (p.report ⟨1, 0⟩ (r "pod") l).statistics = ⟨2, 1⟩ ∧
      ((p.process ⟨1, 0⟩ (r "pod") l).2.rollback "pod" id).1 = .ok 3 ∧
      (l.rollback "pod" id).1 = .ok 0 ∧ (l.rollback "other" id).1 = .ok 3 := by
  intro mark mate other config s id r
  let p : Pipeline := ⟨[.process "materialize" (Materialize.stage (fun _ => .error (.query ""))
    s.loaders s.limits), .store "marked", .store "rest"], "rest", false⟩
  have hb : s.build = .ok p := rfl
  let stored : List (ChangeType × Statement) → RecordLog := fun sts =>
    [("other", sts.map fun q => ⟨id, ⟨0, 0⟩, q.1, q.2⟩)]
  let backends : List Backend := [⟨"rest", .all, stored [(.insert, other)]⟩, .new "spare" .all,
    ⟨"marked", .subjectsWith "urn:p", stored [(.delete, mark), (.insert, mate)]⟩]
  have hl : (p.process ⟨0, 0⟩ (r "other") s.ledger).2.stores = backends.map .memory := by
    decide +kernel
  have hnone : ∀ m ∈ backends, ∀ x ∈ m.log.ofPod "pod", x.changeRequestId ≠ id := by
    decide +kernel
  have hstatistics : (p.report ⟨1, 0⟩ (r "pod")
      (p.process ⟨0, 0⟩ (r "other") s.ledger).2).statistics = ⟨2, 1⟩ := by decide +kernel
  obtain ⟨hinverse, hwithdraw⟩ := rollback_inverts_process hb hl rfl
  obtain ⟨-, hundone, -⟩ := hinverse ⟨1, 0⟩ (r "pod") hnone
  obtain ⟨_, hpod, -⟩ := hwithdraw "pod" id
  obtain ⟨_, hother, -⟩ := hwithdraw "other" id
  have hcounts : (backends.flatMap fun m => m.recordsOf "pod" id).length = 0 ∧
      (backends.flatMap fun m => m.recordsOf "other" id).length = 3 := by decide +kernel
  refine ⟨p, hb, hstatistics, ?_, ?_, ?_⟩
  · rw [hstatistics] at hundone
    exact hundone
  · rw [hpod]
    exact congrArg Except.ok hcounts.1
  · rw [hother]
    exact congrArg Except.ok hcounts.2

end GraphLedger
