import GraphLedger.Proofs.Pipeline.Stored
import GraphLedger.Proofs.Statement.WellFormed
import Mathlib.Data.List.Induction

/-! # What is filed

Requests reach the stores from many sides: as nodes of their own, from the answers of queries, from
templates, from documents that are loaded, and all of that under contexts that their senders write.
Still each record that is filed in a store was appended by the request that it names, under the pod
of that request, and is a well-formed statement; for between the sources and the stores there is
the buffer, to which only valid records of the request are added.

The engine and the loaders may give other answers from one request to the next, so each request may
be processed by another pipeline of the same setup.

* `Backend.files_receiving`: what is filed was filed before, or it has been received.
* `Appends.files`: so it is for a request that is processed.
* `stored_well_formed`: what is filed after any number of requests. -/

namespace GraphLedger

/-! ### Filed records -/

/-- Whether a record is filed under a pod. -/
def RecordLog.Files (log : RecordLog) (podId : String) (x : Record) : Prop :=
  ∃ rs, (podId, rs) ∈ log ∧ x ∈ rs

theorem RecordLog.files_append {log : RecordLog} {podId q : String} {rs : List Record} {x : Record}
    (h : (log.append podId rs).Files q x) : log.Files q x ∨ q = podId ∧ x ∈ rs := by
  obtain ⟨xs, hxs, hx⟩ := h
  induction log with
  | nil =>
    cases List.mem_singleton.mp hxs
    exact Or.inr ⟨rfl, hx⟩
  | cons e log ih =>
    obtain ⟨p, old⟩ := e
    rw [append] at hxs
    split_ifs at hxs with hp
    · rcases List.mem_cons.mp hxs with he | hmem
      · cases he
        rcases List.mem_append.mp hx with hold | hnew
        · exact Or.inl ⟨old, by simp, hold⟩
        · exact Or.inr ⟨hp, hnew⟩
      · exact Or.inl ⟨xs, List.mem_cons_of_mem _ hmem, hx⟩
    · rcases List.mem_cons.mp hxs with he | hmem
      · cases he
        exact Or.inl ⟨xs, by simp, hx⟩
      · rcases ih hmem with ⟨ys, hys, hx⟩ | hnew
        · exact Or.inl ⟨ys, List.mem_cons_of_mem _ hys, hx⟩
        · exact Or.inr hnew

/-- **What is filed** was filed before, or it has been received. -/
theorem Backend.files_receiving {m : Backend} {podId q : String} {rs : List Record} {x : Record}
    (h : (m.receiving podId rs).log.Files q x) : m.log.Files q x ∨ q = podId ∧ x ∈ rs := by
  unfold receiving at h
  split_ifs at h
  · exact Or.inl h
  · exact RecordLog.files_append h

/-- **What is filed when a request was processed** was filed before, or the request has appended
it. -/
theorem Pipeline.Appends.files {p : Pipeline} {now : Instant} {r : Request} {l : Ledger}
    {share : String → List Record} (h : p.Appends now r l share)
    (hm : ∀ store ∈ l.stores, ∃ m, store = .memory m) {store : RecordStore}
    (hstore : store ∈ (p.process now r l).2.stores) :
    ∃ m₀ m, .memory m₀ ∈ l.stores ∧ store = .memory m ∧ m.id = m₀.id ∧
      ∀ podId x, m.log.Files podId x →
        m₀.log.Files podId x ∨ podId = r.podId ∧ x ∈ share m.id := by
  rw [h.stores] at hstore
  obtain ⟨store₀, hstore₀, rfl⟩ := List.mem_map.mp hstore
  obtain ⟨m₀, rfl⟩ := hm store₀ hstore₀
  refine ⟨m₀, m₀.receiving r.podId (share m₀.id), hstore₀, rfl, m₀.id_receiving _ _,
    fun podId x hx => ?_⟩
  rw [Backend.id_receiving]
  exact Backend.files_receiving hx

/-! ### Requests in a row -/

/-- A request that is sent to a pipeline at a time. -/
structure Submission where
  pipeline : Pipeline
  now : Instant
  request : Request

namespace Ledger

/-- The ledger after a submission was processed. -/
def submit (l : Ledger) (c : Submission) : Ledger := (c.pipeline.process c.now c.request l).2

/-- Whether a record that is filed under a pod in the store of an identifier has been appended by
one of several submissions, under its own pod and with its own identifier. -/
def AppendedBy (l₀ : Ledger) (calls : List Submission) (id podId : String) (x : Record) : Prop :=
  ∃ before c after share, calls = before ++ c :: after ∧
    c.pipeline.Appends c.now c.request (before.foldl submit l₀) share ∧ x ∈ share id ∧
      c.request.podId = podId ∧ c.request.id = x.changeRequestId

theorem AppendedBy.append {l₀ : Ledger} {calls : List Submission} {id podId : String} {x : Record}
    (h : l₀.AppendedBy calls id podId x) (more : List Submission) :
    l₀.AppendedBy (calls ++ more) id podId x := by
  obtain ⟨before, c, after, share, rfl, hrest⟩ := h
  exact ⟨before, c, after ++ more, share, by simp, hrest⟩

/-- Whether all stores are in memory, and each record that is filed in one of them is valid and has
been appended by one of several submissions. -/
def WellFiled (l₀ : Ledger) (calls : List Submission) (l : Ledger) : Prop :=
  ∀ store ∈ l.stores, ∃ m, store = .memory m ∧ ∀ podId x, m.log.Files podId x →
    x.statement.invalid? = none ∧ l₀.AppendedBy calls m.id podId x

end Ledger

/-- Whether a pipeline is built from a setup, with whatever engine and loaders. -/
def Setup.Serves (s : Setup) (p : Pipeline) : Prop :=
  ∃ engine loaders, { s with engine := engine, loaders := loaders }.build = .ok p

section Submissions
variable {s : Setup}

theorem Setup.map_id_submissions (calls : List Submission) :
    (calls.foldl Ledger.submit s.ledger).stores.map RecordStore.id =
      s.config.backends.map BackendConfig.id := by
  induction calls using List.reverseRecOn with
  | nil => exact s.map_id_allStores
  | append_singleton calls c ih =>
    rw [List.foldl_append]
    exact (c.pipeline.map_id_process c.now c.request _).trans ih

/-- **One more submission** leaves what is filed valid and accounted for. -/
theorem Setup.wellFiled_submit {calls : List Submission} {c : Submission}
    (hc : s.Serves c.pipeline)
    (h : s.ledger.WellFiled calls (calls.foldl Ledger.submit s.ledger)) :
    s.ledger.WellFiled (calls ++ [c]) ((calls.foldl Ledger.submit s.ledger).submit c) := by
  obtain ⟨engine, loaders, hb⟩ := hc
  have hbuilds := Setup.build_eq_ok_iff.mp hb
  have hn : ((calls.foldl Ledger.submit s.ledger).stores.map RecordStore.id).Nodup := by
    rw [Setup.map_id_submissions]
    exact hbuilds.runnable.backendIds
  have hm : ∀ store ∈ (calls.foldl Ledger.submit s.ledger).stores, ∃ m, store = .memory m :=
    fun store hstore => by
      obtain ⟨m, hm, -⟩ := h store hstore
      exact ⟨m, hm⟩
  obtain ⟨share, hshare⟩ := hbuilds.exists_appends c.now c.request hn hm
  intro store hstore
  obtain ⟨m₀, m, hm₀, rfl, hid, hfiles⟩ := hshare.files hm hstore
  refine ⟨m, rfl, fun podId x hx => ?_⟩
  rcases hfiles podId x hx with hold | ⟨rfl, hnew⟩
  · obtain ⟨m₁, he, hold₁⟩ := h (.memory m₀) hm₀
    cases he
    obtain ⟨hvalid, happended⟩ := hold₁ podId x hold
    exact ⟨hvalid, hid ▸ happended.append [c]⟩
  · rw [hid] at hnew ⊢
    refine ⟨hshare.valid _ hm₀ x hnew, calls, c, [], share, rfl, hshare, hnew, rfl, ?_⟩
    exact (hshare.request _ hm₀ x hnew).symm

end Submissions

/-- **Only well-formed records are filed.** When requests are processed one after the other,
beginning with empty stores in memory, then whatever the requests are, and whatever engines and
loaders answer, each record in each store is valid: its IRIs are absolute, none of them is the label
of a blank node. It was appended by one of the requests, whose identifier it carries and under whose
pod it is filed. -/
theorem stored_well_formed {s : Setup}
    (hstores : ∀ store ∈ s.allStores, ∃ m, store = .memory m ∧ m.log = [])
    (calls : List Submission) (hcalls : ∀ c ∈ calls, s.Serves c.pipeline) :
    ∀ store ∈ (calls.foldl Ledger.submit s.ledger).stores, ∃ m, store = .memory m ∧
      ∀ podId x, m.log.Files podId x →
        x.statement.invalid? = none ∧ x.statement.WellFormed ∧
        (∀ q ∈ x.statement.checked, ¬ Iri.IsBlankLabel q.2) ∧
        s.ledger.AppendedBy calls m.id podId x := by
  have hfiled : s.ledger.WellFiled calls (calls.foldl Ledger.submit s.ledger) := by
    induction calls using List.reverseRecOn with
    | nil =>
      intro store hstore
      obtain ⟨m, rfl, hm⟩ := hstores store hstore
      refine ⟨m, rfl, fun podId x ⟨rs, hrs, _⟩ => ?_⟩
      rw [hm] at hrs
      cases hrs
    | append_singleton calls c ih =>
      rw [List.foldl_append]
      exact s.wellFiled_submit (hcalls c (by simp)) (ih fun d hd => hcalls d (by simp [hd]))
  intro store hstore
  obtain ⟨m, rfl, hm⟩ := hfiled store hstore
  refine ⟨m, rfl, fun podId x hx => ?_⟩
  obtain ⟨hvalid, happended⟩ := hm podId x hx
  have hwell := Statement.invalid?_eq_none_iff.mp hvalid
  exact ⟨hvalid, hwell, fun q hq => hwell.not_isBlankLabel hq, happended⟩

/-- A node is inserted, and then the context of the next request makes its property relative. The
store holds what the first has appended. -/
theorem stored_well_formed_of_relative :
    let engine : QueryEngine := fun _ => .error (.query "")
    let s := Setup.ofConfig .standard engine
    let r := fun id => (Request.new id "pod").withInsert
      (.object [("@id", .string "urn:1"), ("urn:name", .string "Bob")])
    let relative := { r "01BX5ZZKBKACTAV9WEVGEMMVRZ" with
      context := .object [("urn:name", .string "_:name")] }
    ∃ p, s.Serves p ∧
      let calls : List Submission :=
        [⟨p, ⟨0, 0⟩, r "01ARZ3NDEKTSV4RRFFQ69G5FAV"⟩, ⟨p, ⟨1, 0⟩, relative⟩]
      ∃ m x, (calls.foldl Ledger.submit s.ledger).stores = [.memory m] ∧
        m.log = [("pod", [x])] ∧ x.statement.WellFormed ∧
        s.ledger.AppendedBy calls "default" "pod" x := by
  intro engine s r relative
  let p : Pipeline := ⟨[.process "assertions" (Assertion.stage engine 4),
    .process "materialize" (Materialize.stage engine [] s.limits),
    .process "conformance" (Conformance.stage []), .store "default"], "default", false⟩
  have hb : s.Serves p := ⟨some engine, [], rfl⟩
  let calls : List Submission :=
    [⟨p, ⟨0, 0⟩, r "01ARZ3NDEKTSV4RRFFQ69G5FAV"⟩, ⟨p, ⟨1, 0⟩, relative⟩]
  have hempty : ∀ store ∈ s.allStores, ∃ m, store = .memory m ∧ m.log = [] :=
    List.forall_mem_singleton.mpr ⟨.new "default" .all, rfl, rfl⟩
  have hcalls : ∀ c ∈ calls, s.Serves c.pipeline := by
    rw [List.forall_mem_cons, List.forall_mem_singleton]
    exact ⟨hb, hb⟩
  let x : Record := ⟨"01ARZ3NDEKTSV4RRFFQ69G5FAV", ⟨0, 0⟩, .insert,
    ⟨"urn:1", "urn:name", .literal "Bob", "", none, none⟩⟩
  let m : Backend := ⟨"default", .all, [("pod", [x])]⟩
  have hledger : (calls.foldl Ledger.submit s.ledger).stores = [.memory m] := by decide +kernel
  obtain ⟨m', hm', hfiled⟩ := stored_well_formed hempty calls hcalls (.memory m)
    (by rw [hledger]; exact List.mem_singleton_self _)
  cases hm'
  obtain ⟨-, hwell, -, happended⟩ := hfiled "pod" x ⟨[x], List.mem_singleton_self _, by simp⟩
  exact ⟨p, hb, m, x, hledger, rfl, hwell, happended⟩

end GraphLedger
