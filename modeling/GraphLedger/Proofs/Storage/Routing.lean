import GraphLedger.Pipeline.Chain
import GraphLedger.Proofs.Buffer.Calls
import GraphLedger.Proofs.Storage.Commit
import Mathlib.Data.List.Nodup

/-! # Routing records to backends

Storage stages run one after the other, each on what the stages before it left in the buffer. Still
it is the buffer before the first of them that decides where a record goes: to the backend of the
first stage that claims its subject. The reason is that subjects leave the buffer wholesale, so that
a subject which is still there is there with all its records, its markers among them
(`ClaimSelector.claims_filter`).

* `Route.first?`: the backend that gets the records of a subject.
* `commitIn_memory`, `store_memory`: what one storage stage does.
* `stages_routed`: what storage stages in memory do, by induction on the stages.
* `stages_follow_first_claim`: the same for the buffer of any calls. -/

namespace GraphLedger

/-- A storage stage: the identifier of its backend, and what the backend claims. -/
abbrev Route := String × ClaimSelector

/-- The stage that stores in a backend. -/
def Backend.route (s : Backend) : Route := (s.id, s.selector)

theorem Backend.map_fst_route (backends : List Backend) :
    (backends.map Backend.route).map Prod.fst = backends.map Backend.id := by
  rw [List.map_map]; rfl

namespace Route

/-- The backend of the first stage that claims a subject among records. -/
def first? (routes : List Route) (rs : List Record) (subject : String) : Option String :=
  (routes.find? fun q => q.2.claims rs subject).map Prod.fst

/-- The records that go to a backend. -/
def share (routes : List Route) (rs : List Record) (id : String) : List Record :=
  rs.filter fun r => first? routes rs r.statement.subject = some id

/-- The records that no stage claims. -/
def rest (routes : List Route) (rs : List Record) : List Record :=
  rs.filter fun r => first? routes rs r.statement.subject = none

theorem first?_cons (q : Route) (routes : List Route) (rs : List Record) (subject : String) :
    first? (q :: routes) rs subject =
      if q.2.claims rs subject then some q.1 else first? routes rs subject := by
  unfold first?
  rw [List.find?_cons]
  cases q.2.claims rs subject <;> rfl

theorem first?_unclaimed (q : Route) (routes : List Route) (rs : List Record) {subject : String}
    (h : q.2.claims rs subject = false) :
    first? routes (q.2.unclaimed rs) subject = first? routes rs subject := by
  have hclaims : ∀ p : Route, p.2.claims (q.2.unclaimed rs) subject = p.2.claims rs subject :=
    fun p => p.2.claims_filter rs (fun s => !q.2.claims rs s) (by simp [h])
  unfold first?
  simp only [hclaims]

theorem rest_nil (rs : List Record) : rest [] rs = rs :=
  List.filter_eq_self.mpr fun _ _ => rfl

theorem share_nil (rs : List Record) (id : String) : share [] rs id = [] :=
  List.filter_eq_nil_iff.mpr fun _ _ => by simp [first?]

theorem rest_cons (q : Route) (routes : List Route) (rs : List Record) :
    rest (q :: routes) rs = rest routes (q.2.unclaimed rs) := by
  unfold rest
  conv_rhs => rw [ClaimSelector.unclaimed, List.filter_filter]
  refine List.filter_congr fun r _ => ?_
  rw [first?_cons]
  cases h : q.2.claims rs r.statement.subject with
  | true => simp
  | false =>
    rw [← ClaimSelector.unclaimed, first?_unclaimed q routes rs h]
    simp

theorem rest_singleton (q : Route) (rs : List Record) : rest [q] rs = q.2.unclaimed rs := by
  rw [rest_cons, rest_nil]

theorem share_cons_of_ne {q : Route} {id : String} (hid : id ≠ q.1) (routes : List Route)
    (rs : List Record) : share (q :: routes) rs id = share routes (q.2.unclaimed rs) id := by
  unfold share
  conv_rhs => rw [ClaimSelector.unclaimed, List.filter_filter]
  refine List.filter_congr fun r _ => ?_
  rw [first?_cons]
  cases h : q.2.claims rs r.statement.subject with
  | true => simp [hid.symm]
  | false =>
    rw [← ClaimSelector.unclaimed, first?_unclaimed q routes rs h]
    simp

theorem share_cons_self {q : Route} {routes : List Route} (hq : ∀ p ∈ routes, p.1 = q.1 → p = q)
    (rs : List Record) :
    share (q :: routes) rs q.1 = q.2.claimed rs ∧ share routes (q.2.unclaimed rs) q.1 = [] := by
  -- a later stage of the same backend claims the same subjects
  have hlater : ∀ subject, q.2.claims rs subject = false → first? routes rs subject ≠ some q.1 := by
    intro subject h hf
    obtain ⟨p, hp, he⟩ := Option.map_eq_some_iff.mp hf
    have hpq : p = q := hq p (List.mem_of_find?_eq_some hp) he
    have hc := List.find?_some hp
    rw [hpq, h] at hc
    cases hc
  constructor
  · refine List.filter_congr fun r _ => ?_
    rw [first?_cons]
    cases h : q.2.claims rs r.statement.subject with
    | true => simp
    | false => simpa using hlater _ h
  · refine List.filter_eq_nil_iff.mpr fun r hr => ?_
    have h : q.2.claims rs r.statement.subject = false := by
      simpa using (List.mem_filter.mp hr).2
    rw [first?_unclaimed q routes rs h]
    simpa using hlater _ h

theorem share_singleton (q : Route) (rs : List Record) : share [q] rs q.1 = q.2.claimed rs :=
  (share_cons_self (fun p hp => by cases hp) rs).1

end Route

/-! ### One stage -/

/-- **Storing by identifier** is committing to the backend of that identifier. -/
theorem RecordStore.commitIn_memory {s : Backend} (b : Buffer) : ∀ {backends : List Backend},
    (backends.map Backend.id).Nodup → s ∈ backends →
    RecordStore.commitIn s.id (backends.map .memory) b =
      .ok (backends.map (fun t => .memory (if t.id = s.id then (t.commit b).1 else t)),
        (s.commit b).2)
  | t :: backends, hn, hs => by
    obtain ⟨ht, hn⟩ := List.nodup_cons.mp hn
    rw [List.map_cons, List.map_cons, RecordStore.commitIn]
    by_cases he : t.id = s.id
    · -- then the backend is `t`, and none behind it has its identifier
      have hts : s = t := by
        rcases List.mem_cons.mp hs with h | h
        · exact h
        · exact absurd (List.mem_map_of_mem h) (he ▸ ht)
      subst hts
      have hrest : ∀ u ∈ backends, u.id ≠ s.id := fun u hu h =>
        ht (h ▸ List.mem_map_of_mem hu)
      rw [if_pos (show (RecordStore.memory s).id = s.id from rfl), if_pos rfl,
        List.map_congr_left fun u hu => congrArg RecordStore.memory (if_neg (hrest u hu))]
      rfl
    · have hs' : s ∈ backends := (List.mem_cons.mp hs).resolve_left fun h => he (by rw [h])
      rw [if_neg (show ¬ (RecordStore.memory t).id = s.id from he), if_neg he,
        commitIn_memory b hn hs']
      rfl

/-- What storage stages have done to stores and a buffer: each store has received its share, and the
rest is left. What was stored is counted. -/
structure Routed (routes : List Route) (backends : List Backend) (b : Buffer) (r : Run) : Prop where
  stores : r.stores = backends.map fun s =>
    .memory (s.receiving b.request.podId (Route.share routes b.contents s.id))
  contents : r.workspace.buffer.contents = Route.rest routes b.contents
  valid : r.workspace.buffer.Valid
  request : r.workspace.buffer.request = b.request
  counted : ∀ t, r.workspace.buffer.statistics.count t +
      (Route.rest routes b.contents).countP (fun r => r.changeType = t) =
    b.statistics.count t + b.contents.countP fun r => r.changeType = t

theorem Routed.notePreprocessed {routes : List Route} {backends : List Backend} {b : Buffer}
    {r : Run} (h : Routed routes backends b r) (now : Instant) :
    Routed routes backends b (r.notePreprocessed now) where
  stores := by rw [Run.stores_notePreprocessed]; exact h.stores
  contents := by rw [Run.workspace_notePreprocessed]; exact h.contents
  valid := by rw [Run.workspace_notePreprocessed]; exact h.valid
  request := by rw [Run.workspace_notePreprocessed]; exact h.request
  counted t := by rw [Run.workspace_notePreprocessed]; exact h.counted t

theorem routed_nil {backends : List Backend} {r : Run} (hr : r.stores = backends.map .memory)
    (hv : r.workspace.buffer.Valid) : Routed [] backends r.workspace.buffer r where
  stores := hr.trans (List.map_congr_left fun s _ => by rw [Route.share_nil]; rfl)
  contents := (Route.rest_nil _).symm
  valid := hv
  request := rfl
  counted t := by rw [Route.rest_nil]

/-- The backends once a stage has stored. -/
def Route.received (q : Route) (b : Buffer) (backends : List Backend) : List Backend :=
  backends.map fun s => s.receiving b.request.podId (share [q] b.contents s.id)

theorem Backend.route_receiving (s : Backend) (podId : String) (rs : List Record) :
    (s.receiving podId rs).route = s.route := by
  simp only [Backend.route, Backend.id_receiving, Backend.selector_receiving]

theorem Route.route_received (q : Route) (b : Buffer) (backends : List Backend) :
    (q.received b backends).map Backend.route = backends.map Backend.route := by
  rw [received, List.map_map]
  exact List.map_congr_left fun s _ => s.route_receiving _ _

/-- **Stages add up.** What one stage does, and then others to what it leaves, is what all do. -/
theorem Routed.cons {q : Route} {routes : List Route} {backends : List Backend} {b : Buffer}
    {r₁ r₂ : Run} (hq : ∀ p ∈ routes, p.1 = q.1 → p = q) (h₁ : Routed [q] backends b r₁)
    (h₂ : Routed routes (q.received b backends) r₁.workspace.buffer r₂) :
    Routed (q :: routes) backends b r₂ := by
  have hc := h₁.contents
  have hrest : Route.rest (q :: routes) b.contents =
      Route.rest routes r₁.workspace.buffer.contents := by
    rw [hc, Route.rest_cons, Route.rest_singleton]
  refine ⟨?_, by rw [h₂.contents, hrest], h₂.valid, h₂.request.trans h₁.request, fun t => ?_⟩
  · rw [h₂.stores, Route.received, List.map_map, h₁.request, hc, Route.rest_singleton]
    refine List.map_congr_left fun s _ => ?_
    simp only [Function.comp, Backend.id_receiving]
    by_cases hs : s.id = q.1
    · -- all that the backend ever gets, it gets from the first stage
      obtain ⟨hself, hlater⟩ := Route.share_cons_self hq b.contents
      rw [hs, Route.share_singleton, hlater, hself, Backend.receiving_nil]
    · rw [Route.share_cons_of_ne hs, Route.share_cons_of_ne hs, Route.share_nil,
        Backend.receiving_nil]
  · rw [hrest, h₂.counted t, ← h₁.counted t, hc]

section Stages
variable {backends : List Backend} (hn : (backends.map Backend.id).Nodup)
include hn

theorem Backend.eq_of_id {s t : Backend} (hs : s ∈ backends) (ht : t ∈ backends)
    (h : s.id = t.id) : s = t :=
  List.inj_on_of_nodup_map hn hs ht h

/-- **One storage stage** moves what its backend claims from the buffer to the log. -/
theorem Run.store_memory (now : Instant) {r : Run} (hr : r.stores = backends.map .memory)
    (hv : r.workspace.buffer.Valid) {s : Backend} (hs : s ∈ backends) :
    ∃ r', r.stage now (.store s.id) = (.ok (), r') ∧
      Routed [s.route] backends r.workspace.buffer r' := by
  have hrest : Route.rest [s.route] r.workspace.buffer.contents =
      s.selector.unclaimed r.workspace.buffer.contents := by
    rw [Route.rest_cons, Route.rest_nil]; rfl
  refine ⟨{ r.notePreprocessed now with
      stores := backends.map fun t =>
        .memory (if t.id = s.id then (t.commit r.workspace.buffer).1 else t)
      workspace := { r.workspace with buffer := (s.commit r.workspace.buffer).2 } }, ?_, ?_⟩
  · simp only [stage, store, stores_notePreprocessed, workspace_notePreprocessed, hr,
      RecordStore.commitIn_memory _ hn hs]
  · refine ⟨List.map_congr_left fun t ht => ?_, ?_, Backend.valid_commit hv s,
      Backend.request_commit hv s, fun t => ?_⟩
    · by_cases he : t.id = s.id
      · have hts := Backend.eq_of_id hn ht hs he
        subst hts
        have hself := Route.share_singleton t.route r.workspace.buffer.contents
        rw [if_pos rfl, Backend.commit_eq hv]
        exact congrArg (fun rs => RecordStore.memory (t.receiving _ rs)) hself.symm
      · rw [if_neg he, Route.share_cons_of_ne (q := s.route) he, Route.share_nil]
        rfl
    · rw [hrest]; exact Backend.contents_commit hv s
    · rw [hrest, Backend.count_statistics_commit hv, Nat.add_assoc]
      congr 1
      exact (List.countP_eq_countP_filter_add _ _ _).symm

end Stages

/-- **Storage stages in memory** all succeed, and what they do follows from the buffer before the
first of them. -/
theorem Run.stages_routed (now : Instant) {routes : List Route} :
    ∀ {backends : List Backend} {r : Run}, (backends.map Backend.id).Nodup →
      routes ⊆ backends.map Backend.route → r.stores = backends.map .memory →
      r.workspace.buffer.Valid →
      ∃ r', Run.stages now (routes.map fun q => .store q.1) r = (.ok (), r') ∧
        Routed routes backends r.workspace.buffer r' := by
  induction routes with
  | nil => exact fun _ _ hr hv => ⟨_, rfl, routed_nil hr hv⟩
  | cons q routes ih =>
    intro backends r hn hs hr hv
    obtain ⟨hqmem, hrest⟩ := List.cons_subset.mp hs
    obtain ⟨s, hsmem, rfl⟩ := List.mem_map.mp hqmem
    obtain ⟨r₁, he₁, h₁⟩ := Run.store_memory hn now hr hv hsmem
    have hroutes := s.route.route_received r.workspace.buffer backends
    have hids : ((s.route.received r.workspace.buffer backends).map Backend.id).Nodup := by
      rw [← Backend.map_fst_route, hroutes, Backend.map_fst_route]
      exact hn
    obtain ⟨r₂, he₂, h₂⟩ := ih hids (hroutes ▸ hrest)
      (by rw [h₁.stores, Route.received, List.map_map]; rfl) h₁.valid
    -- another stage of the same backend has the same route
    have hsame : ∀ p ∈ routes, p.1 = s.id → p = s.route := fun p hp hid => by
      obtain ⟨t, ht, rfl⟩ := List.mem_map.mp (hrest hp)
      rw [Backend.eq_of_id hn ht hsmem hid]
    refine ⟨r₂, ?_, h₁.cons hsame h₂⟩
    rw [List.map_cons, Run.stages, show s.route.1 = s.id from rfl, he₁]
    exact he₂

theorem Routed.select_eq {routes : List Route} {backends : List Backend} {b : Buffer} {r : Run}
    (h : Routed routes backends b r) (s : ClaimSelector) :
    s.select r.workspace.buffer =
      r.workspace.buffer.contents.filter fun x => s.claims b.contents x.statement.subject := by
  rw [ClaimSelector.select_eq h.valid]
  refine List.filter_congr fun x hx => ?_
  rw [h.contents] at hx ⊢
  exact s.claims_filter b.contents
    (fun subject => decide (Route.first? routes b.contents subject = none))
    (List.mem_filter.mp hx).2

/-- **The first claim decides.** Storage stages in memory, in any order and with any selectors, run
over the buffer of any calls. Each backend receives, in the order of the buffer, the records of the
subjects that it is the first to claim in the buffer as it was before all stages; so no subject is
split. What a later stage finds is claimed as if nothing had been removed. -/
theorem stages_follow_first_claim (request : Request) (time now : Instant) (cs : List BufferCall)
    {backends stages : List Backend} (hn : (backends.map Backend.id).Nodup)
    (hs : stages ⊆ backends) (asked : List String) (supply : Nat) (report : Report)
    (pending : Bool) :
    let b := ((Buffer.openAt request time).calls cs).2
    let after := fun stages : List Backend => Run.stages now (stages.map fun s => .store s.id)
      ⟨⟨b, asked, supply⟩, backends.map .memory, report, pending⟩
    let share := fun s : Backend => b.contents.filter fun x =>
      Route.first? (stages.map Backend.route) b.contents x.statement.subject = some s.id
    (after stages).1 = .ok () ∧
      (after stages).2.stores =
        backends.map (fun s => .memory (s.receiving request.podId (share s))) ∧
      b.contents.Pairwise b.Precedes ∧
      (∀ s ∈ backends, ∀ t ∈ backends, ∀ x ∈ share s, ∀ y ∈ share t,
        x.statement.subject = y.statement.subject → s = t) ∧
      ∀ earlier later, stages = earlier ++ later → ∀ s ∈ later,
        let left := (after earlier).2.workspace.buffer
        s.selector.select left = left.contents.filter fun x =>
          s.selector.claims b.contents x.statement.subject := by
  intro b after share
  have hv : b.Valid := Buffer.valid_calls request time cs
  have hrequest : b.request = request := Buffer.request_calls _ cs
  have hrun : ∀ stages ⊆ backends, ∃ r', after stages = (.ok (), r') ∧
      Routed (stages.map Backend.route) backends b r' := fun stages hs => by
    have h := Run.stages_routed now hn (List.map_subset Backend.route hs)
      (r := ⟨⟨b, asked, supply⟩, backends.map .memory, report, pending⟩) rfl hv
    rwa [List.map_map] at h
  obtain ⟨r', he, h⟩ := hrun stages hs
  refine ⟨by rw [he], ?_, hv.contents_ordered, ?_, ?_⟩
  · rw [he, h.stores, hrequest]; rfl
  · intro s hsmem t htmem x hx y hy hxy
    have hx := (List.mem_filter.mp hx).2
    have hy := (List.mem_filter.mp hy).2
    rw [decide_eq_true_eq] at hx hy
    exact Backend.eq_of_id hn hsmem htmem (Option.some_inj.mp (by rw [← hx, ← hy, hxy]))
  · intro earlier later hsplit s _
    obtain ⟨r₁, he₁, h₁⟩ := hrun earlier fun t ht => hs (by rw [hsplit]; simp [ht])
    rw [he₁]
    exact h₁.select_eq s.selector

/-- A marker on a deletion claims the insertion of its subject too. -/
theorem stages_follow_first_claim_of_mark :
    let now : Instant := ⟨0, 0⟩
    let mark : Record := ⟨"r", now, .delete, ⟨"a", "p", .literal "1", "g", none, none⟩⟩
    let other : Record := ⟨"r", now, .insert, ⟨"b", "q", .literal "2", "g", none, none⟩⟩
    let mate : Record := ⟨"r", now, .insert, ⟨"a", "q", .literal "3", "g", none, none⟩⟩
    let b := ((Buffer.openAt (.new "r" "pod") now).calls [.add [other, mate, mark]]).2
    (Run.stages now [.store "marked", .store "rest"]
        ⟨⟨b, [], 0⟩, [.memory (.new "rest" .all), .memory (.new "marked" (.subjectsWith "p"))],
          .queued (.new "r" "pod") now, false⟩).2.stores =
      [.memory ⟨"rest", .all, [("pod", [other])]⟩,
        .memory ⟨"marked", .subjectsWith "p", [("pod", [mark, mate])]⟩] := by
  intro now mark other mate b
  let rest := Backend.new "rest" .all
  let marked := Backend.new "marked" (.subjectsWith "p")
  have hn : ([rest, marked].map Backend.id).Nodup := by decide
  have hs : [marked, rest] ⊆ [rest, marked] := by decide
  have h := stages_follow_first_claim (.new "r" "pod") now now [.add [other, mate, mark]] hn hs []
    0 (.queued (.new "r" "pod") now) false
  exact h.2.1.trans (by decide +kernel)

end GraphLedger
