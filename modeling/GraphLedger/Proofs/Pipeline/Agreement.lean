import GraphLedger.Proofs.Pipeline.History
import GraphLedger.Proofs.Pipeline.Stored

/-! # What the change log says and what the stores hold

A request may be sent again with the identifier that it had. The change log then keeps the later
report in place of the earlier one, while the stores hold what each attempt has stored, one behind
the other. So the report that is kept agrees with the stores just if no earlier attempt has stored
anything: if an attempt was committed and a later one fails, the log says that nothing was stored.

* `Builds.held_process`: a request adds to what is held as many records as its report counts.
* `Builds.held_after`: requests in a row add what all their reports count, by induction.
* `Pipeline.get?_after`: of all reports on a request the change log keeps the last.
* `kept_report_agrees_iff`: when the report that is kept agrees with what is held.
* `kept_report_of_retry`: a report that does not. -/

namespace GraphLedger

/-! ### Requests in a row -/

namespace Pipeline
variable (p : Pipeline)

/-- The ledger after requests were processed one after the other, each at its time. -/
def after (l : Ledger) : List (Instant × Request) → Ledger
  | [] => l
  | (now, r) :: calls => after (p.process now r l).2 calls

/-- The reports on requests that are processed one after the other. -/
def reports (l : Ledger) : List (Instant × Request) → List Report
  | [] => []
  | (now, r) :: calls => p.report now r l :: reports (p.process now r l).2 calls

end Pipeline

/-- Whether a report is on a request of a pod. -/
def Report.isOn (podId id : String) (r : Report) : Bool := r.podId = podId && r.id = id

/-- The query for the records of a type that a request has stored in a pod. -/
def RecordsQuery.ofRequest (podId id : String) (t : ChangeType) : RecordsQuery :=
  { ofPod podId with changeRequestId := some id, filter := .ofType t }

theorem RecordsQuery.accepts_ofRequest (podId id : String) (t : ChangeType) (x : Record) :
    (ofRequest podId id t).accepts x =
      (decide (x.changeRequestId = id) && decide (x.changeType = t)) := by
  simp [accepts, ofRequest, ofPod, RecordFilter.accepts, RecordFilter.ofType, RecordFilter.any,
    RecordFilter.agrees, eq_comm]

/-- The records of a type that all stores together hold of a request. -/
def Ledger.held (l : Ledger) (podId id : String) (t : ChangeType) : List Record :=
  l.stores.flatMap fun s => s.stream (.ofRequest podId id t)

/-- **A report agrees with what is held** if it counts it, and says that the request is committed if
there is anything. -/
structure Ledger.Agrees (l : Ledger) (podId id : String) (kept : Report) : Prop where
  counts : ∀ t, kept.statistics.count t = (l.held podId id t).length
  status : ∀ t, l.held podId id t ≠ [] → kept.status = .committed

/-! ### One request -/

theorem Backend.length_stream_receiving (m : Backend) (podId : String) (rs : List Record)
    (q : RecordsQuery) : ((m.receiving podId rs).stream q).length =
      (m.stream q).length + if q.podId = podId then rs.countP q.accepts else 0 := by
  unfold stream
  rw [ofPod_receiving, List.filter_append, List.length_append]
  congr 1
  split_ifs
  · exact List.countP_eq_length_filter.symm
  · rfl

theorem Pipeline.Appends.length_flatMap_stream {p : Pipeline} {now : Instant} {r : Request}
    {l : Ledger} {share : String → List Record} (h : p.Appends now r l share)
    (hm : ∀ store ∈ l.stores, ∃ m, store = .memory m) (q : RecordsQuery) :
    ((p.process now r l).2.stores.flatMap fun s => s.stream q).length =
      (l.stores.flatMap fun s => s.stream q).length +
        if q.podId = r.podId then (handedOut l.stores share).countP q.accepts else 0 := by
  have hone : ∀ s ∈ l.stores, ((s.receiving r.podId (share s.id)).stream q).length =
      (s.stream q).length + if q.podId = r.podId then (share s.id).countP q.accepts else 0 := by
    intro s hs
    obtain ⟨m, rfl⟩ := hm s hs
    exact m.length_stream_receiving _ _ q
  rw [h.stores, List.flatMap_map, List.length_flatMap, List.length_flatMap,
    List.map_congr_left hone, List.sum_map_add]
  congr 1
  split_ifs
  · rw [handedOut, List.countP_flatMap]
    rfl
  · simp

namespace Setup.Builds
variable {s : Setup} {p : Pipeline} (h : s.Builds p) (now : Instant) (r : Request) (l : Ledger)
include h

theorem isOn_report (podId id : String) :
    (p.report now r l).isOn podId id = (decide (r.podId = podId) && decide (r.id = id)) := by
  obtain ⟨hid, hpod⟩ := h.id_report now r l
  rw [Report.isOn, hid, hpod]

variable {l} (hl : p.Reaches s.ledger l) (hm : ∀ store ∈ l.stores, ∃ m, store = .memory m)
include hl hm

/-- **What one request adds.** The stores hold what they held, and as many records of the request as
its report counts. -/
theorem held_process (podId id : String) (t : ChangeType) :
    ((p.process now r l).2.held podId id t).length = (l.held podId id t).length +
      if (p.report now r l).isOn podId id then (p.report now r l).statistics.count t else 0 := by
  obtain ⟨share, hshare⟩ := h.exists_appends now r (h.nodup_of_reaches hl) hm
  unfold Ledger.held
  rw [hshare.length_flatMap_stream hm, h.isOn_report, ← hshare.counted]
  -- all that is appended has the identifier of the request, so that the type decides
  have hcount : (handedOut l.stores share).countP (RecordsQuery.ofRequest podId id t).accepts =
      if r.id = id then (handedOut l.stores share).countP fun x => x.changeType = t else 0 := by
    have hids : ∀ x ∈ handedOut l.stores share, x.changeRequestId = r.id := fun x hx => by
      obtain ⟨s, hs, hx⟩ := List.mem_flatMap.mp hx
      exact hshare.request s hs x hx
    split_ifs with hid
    · refine List.countP_congr fun x hx => ?_
      simp [RecordsQuery.accepts_ofRequest, hids x hx, hid]
    · refine List.countP_eq_zero.mpr fun x hx => ?_
      simp [RecordsQuery.accepts_ofRequest, hids x hx, hid]
  rw [hcount]
  congr 1
  by_cases hpod : r.podId = podId
  · simp [hpod, RecordsQuery.ofRequest, RecordsQuery.ofPod]
  · have hne : podId ≠ r.podId := fun he => hpod he.symm
    simp [hpod, hne, RecordsQuery.ofRequest, RecordsQuery.ofPod]

/-- **What requests in a row add** is what all their reports count. -/
theorem held_after (calls : List (Instant × Request)) (podId id : String) (t : ChangeType) :
    ((p.after l calls).held podId id t).length = (l.held podId id t).length +
      (((p.reports l calls).filter (Report.isOn podId id)).map fun x =>
        x.statistics.count t).sum := by
  induction calls generalizing l with
  | nil => rfl
  | cons call calls ih =>
    obtain ⟨now, r⟩ := call
    have hone := h.held_process now r hl hm podId id t
    have hmemory := h.memory_process now r (h.nodup_of_reaches hl) hm
    rw [Pipeline.after, Pipeline.reports, ih (.process now r hl) hmemory, hone, Nat.add_assoc]
    congr 1
    by_cases hon : (p.report now r l).isOn podId id
    · rw [if_pos hon, List.filter_cons_of_pos hon, List.map_cons, List.sum_cons]
    · rw [if_neg hon, List.filter_cons_of_neg hon, Nat.zero_add]

end Setup.Builds

/-! ### All reports -/

namespace Pipeline
variable (p : Pipeline)

/-- **The change log keeps the last report** on a request, and the one that it had if there is none.
A change log that cannot be written has no reports. -/
theorem get?_after (l : Ledger) (calls : List (Instant × Request)) (podId id : String) :
    (p.after l calls).reports.log.get? podId id =
      match l.reports with
      | .memory log =>
        ((p.reports l calls).filter (Report.isOn podId id)).getLast?.or (log.get? podId id)
      | .failing _ => none := by
  induction calls generalizing l with
  | nil =>
    rw [after]
    cases l.reports <;> rfl
  | cons call calls ih =>
    obtain ⟨now, r⟩ := call
    rw [after, reports, ih]
    have hreports : (p.process now r l).2.reports = l.reports.write (p.report now r l) := rfl
    rw [hreports]
    cases l.reports with
    | failing e => rfl
    | memory log =>
      show Option.or _ ((log.write (p.report now r l)).get? podId id) = _
      have hiff : (podId = (p.report now r l).podId ∧ id = (p.report now r l).id) ↔
          (p.report now r l).isOn podId id = true := by
        rw [Report.isOn, Bool.and_eq_true, decide_eq_true_eq, decide_eq_true_eq]
        exact and_congr eq_comm eq_comm
      rw [ChangeLog.get?_write]
      by_cases hon : (p.report now r l).isOn podId id
      · rw [if_pos (hiff.mpr hon), List.filter_cons_of_pos hon, List.getLast?_cons]
        cases ((p.reports (p.process now r l).2 calls).filter
          (Report.isOn podId id)).getLast? <;> rfl
      · rw [if_neg fun he => hon (hiff.mp he), List.filter_cons_of_neg hon]

theorem status_of_mem_reports (l : Ledger) (calls : List (Instant × Request)) {x : Report}
    (hx : x ∈ p.reports l calls) (hne : x.statistics ≠ ⟨0, 0⟩) : x.status = .committed := by
  induction calls generalizing l with
  | nil => cases hx
  | cons call calls ih =>
    obtain ⟨now, r⟩ := call
    rw [reports] at hx
    rcases List.mem_cons.mp hx with rfl | hx
    · rw [p.status_report_eq_committed_iff now r l]
      cases hrun : (p.run now r l).1 with
      | error e => exact absurd (p.statistics_report_of_error now r l hrun) hne
      | ok u => rfl
    · exact ih _ hx

end Pipeline

/-! ### Agreement -/

/-- **The report that is kept agrees with what is held** if and only if no earlier attempt has
stored anything. When requests are processed one after the other, beginning with an empty change log
and with empty stores in memory, the change log keeps of all reports on a request of a pod the last;
but what the stores hold of the request is what all these reports count. -/
theorem kept_report_agrees_iff {s : Setup} {p : Pipeline} (hb : s.build = .ok p)
    (hstores : ∀ store ∈ s.allStores, ∃ m, store = .memory m ∧ ∀ podId, m.log.ofPod podId = [])
    (hreports : s.reports.log = []) (calls : List (Instant × Request)) {podId id : String}
    {kept : Report}
    (hkept : (p.after s.ledger calls).reports.log.get? podId id = some kept) :
    let l := p.after s.ledger calls
    let reports := (p.reports s.ledger calls).filter (Report.isOn podId id)
    reports.getLast? = some kept ∧
      (∀ t, (l.held podId id t).length = (reports.map fun x => x.statistics.count t).sum) ∧
      (l.Agrees podId id kept ↔ ∀ x ∈ reports.dropLast, x.statistics = ⟨0, 0⟩) := by
  intro l reports
  have h := Setup.build_eq_ok_iff.mp hb
  have hlast : reports.getLast? = some kept := by
    rw [p.get?_after s.ledger calls podId id, show s.ledger.reports = s.reports from rfl] at hkept
    cases hr : s.reports with
    | failing e => rw [hr] at hkept; cases hkept
    | memory log =>
      rw [hr] at hkept hreports
      have hlog : log = [] := hreports
      rw [hlog] at hkept
      simpa [ChangeLog.get?, ChangeLog.ofPod, reports] using hkept
  have hempty : ∀ t, s.ledger.held podId id t = [] := fun t =>
    List.flatMap_eq_nil_iff.mpr fun store hstore => by
      obtain ⟨m, rfl, hm⟩ := hstores store hstore
      show (m.log.ofPod podId).filter _ = []
      rw [hm, List.filter_nil]
  have hheld : ∀ t, (l.held podId id t).length =
      (reports.map fun x => x.statistics.count t).sum := fun t => by
    have hmemory : ∀ store ∈ s.ledger.stores, ∃ m, store = .memory m := fun store hstore => by
      obtain ⟨m, hm, -⟩ := hstores store hstore
      exact ⟨m, hm⟩
    have hafter := h.held_after .first hmemory calls podId id t
    rwa [hempty, List.length_nil, Nat.zero_add] at hafter
  -- all that is held is counted by the last report and those before it
  obtain ⟨earlier, hsplit⟩ : ∃ earlier, reports = earlier ++ [kept] :=
    List.getLast?_eq_some_iff.mp hlast
  have hsum : ∀ t, (l.held podId id t).length =
      (earlier.map fun x => x.statistics.count t).sum + kept.statistics.count t := fun t => by
    rw [hheld, hsplit]
    simp
  refine ⟨hlast, hheld, ?_⟩
  rw [hsplit, List.dropLast_concat]
  constructor
  · intro hagrees x hx
    have hzero : ∀ t, x.statistics.count t = 0 := fun t => by
      have hnone : (earlier.map fun x => x.statistics.count t).sum = 0 := by
        have hcounts := hagrees.counts t
        have hall := hsum t
        omega
      exact List.sum_eq_zero_iff_forall_eq_nat.mp hnone _ (List.mem_map_of_mem hx)
    exact congrArg₂ Statistics.mk (hzero .insert) (hzero .delete)
  · intro hzero
    have hcounts : ∀ t, kept.statistics.count t = (l.held podId id t).length := fun t => by
      have hnone : (earlier.map fun x => x.statistics.count t).sum = 0 :=
        List.sum_eq_zero_iff_forall_eq_nat.mpr fun n hn => by
          obtain ⟨x, hx, rfl⟩ := List.mem_map.mp hn
          rw [hzero x hx]
          cases t <;> rfl
      rw [hsum, hnone, Nat.zero_add]
    refine ⟨hcounts, fun t hne => ?_⟩
    have hmem : kept ∈ p.reports s.ledger calls :=
      (List.mem_filter.mp (List.mem_of_getLast? hlast)).1
    refine p.status_of_mem_reports s.ledger calls hmem fun hnone => hne ?_
    have hcount := hcounts t
    rw [hnone] at hcount
    exact List.length_eq_zero_iff.mp (hcount.symm.trans (by cases t <;> rfl))

/-- A request that fails is sent again, and then it is committed. -/
theorem kept_report_agrees_of_second_attempt :
    let engine : QueryEngine := fun _ => .ok ⟨some (.array []), []⟩
    let s := Setup.ofConfig .standard engine
    let r := (Request.new "01HZY3V4E0000000000000000A" "pod").withInsert
      (.object [("@id", .string "urn:1"), ("urn:name", .string "Bob")])
    let calls := [(⟨0, 0⟩, r.withAssertion ⟨.nonEmptyResult, "q"⟩), (⟨1, 0⟩, r)]
    ∃ p kept, s.build = .ok p ∧
      (p.after s.ledger calls).reports.log.get? "pod" r.id = some kept ∧
        (p.reports s.ledger calls).map Report.status = [.assertionFailed, .committed] ∧
        kept.statistics = ⟨1, 0⟩ ∧ (p.after s.ledger calls).Agrees "pod" r.id kept := by
  intro engine s r calls
  let p : Pipeline := ⟨[.process "assertions" (Assertion.stage engine 4),
    .process "materialize" (Materialize.stage engine [] s.limits),
    .process "conformance" (Conformance.stage []), .store "default"], "default", false⟩
  have hb : s.build = .ok p := rfl
  obtain ⟨kept, hkept⟩ : ∃ kept,
      (p.after s.ledger calls).reports.log.get? "pod" r.id = some kept :=
    Option.isSome_iff_exists.mp (by decide +kernel)
  have hempty : ∀ store ∈ s.allStores,
      ∃ m, store = .memory m ∧ ∀ podId, m.log.ofPod podId = [] :=
    List.forall_mem_singleton.mpr ⟨.new "default" .all, rfl, fun _ => rfl⟩
  obtain ⟨hlast, -, hagrees⟩ := kept_report_agrees_iff hb hempty rfl calls hkept
  have hstatistics : ∀ x ∈ ((p.reports s.ledger calls).filter
      (Report.isOn "pod" r.id)).getLast?, x.statistics = ⟨1, 0⟩ := by decide +kernel
  exact ⟨p, kept, hb, hkept, by decide +kernel, hstatistics kept hlast,
    hagrees.mpr (by decide +kernel)⟩

/-- A request that was committed is sent again and fails: the store holds its record, but the log
says that an assertion failed and that nothing was stored. -/
theorem kept_report_of_retry :
    let engine : QueryEngine := fun _ => .ok ⟨some (.array []), []⟩
    let s := Setup.ofConfig .standard engine
    let r := (Request.new "01HZY3V4E0000000000000000A" "pod").withInsert
      (.object [("@id", .string "urn:1"), ("urn:name", .string "Bob")])
    let calls := [(⟨0, 0⟩, r), (⟨1, 0⟩, r.withAssertion ⟨.nonEmptyResult, "q"⟩)]
    ∃ p kept, s.build = .ok p ∧
      (p.after s.ledger calls).reports.log.get? "pod" r.id = some kept ∧
        ((p.after s.ledger calls).held "pod" r.id .insert).length = 1 ∧
        kept.status = .assertionFailed ∧ kept.statistics = ⟨0, 0⟩ ∧
        ¬ (p.after s.ledger calls).Agrees "pod" r.id kept := by
  intro engine s r calls
  let p : Pipeline := ⟨[.process "assertions" (Assertion.stage engine 4),
    .process "materialize" (Materialize.stage engine [] s.limits),
    .process "conformance" (Conformance.stage []), .store "default"], "default", false⟩
  have hb : s.build = .ok p := rfl
  obtain ⟨kept, hkept⟩ : ∃ kept,
      (p.after s.ledger calls).reports.log.get? "pod" r.id = some kept :=
    Option.isSome_iff_exists.mp (by decide +kernel)
  have hheld : ((p.after s.ledger calls).held "pod" r.id .insert).length = 1 := by decide +kernel
  have hwritten : ∀ x ∈ (p.after s.ledger calls).reports.log.get? "pod" r.id,
      x.status = .assertionFailed ∧ x.statistics = ⟨0, 0⟩ := by decide +kernel
  obtain ⟨hstatus, hstatistics⟩ := hwritten kept hkept
  refine ⟨p, kept, hb, hkept, hheld, hstatus, hstatistics, fun hagrees => ?_⟩
  have hcount := hagrees.counts .insert
  rw [hheld, hstatistics] at hcount
  cases hcount

end GraphLedger
