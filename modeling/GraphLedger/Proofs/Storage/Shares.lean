import GraphLedger.Pipeline.Chain
import GraphLedger.Proofs.Storage.Commit
import Mathlib.Algebra.BigOperators.Group.List.Basic
import Mathlib.Data.List.Nodup

/-! # The shares of stores

Storage stages that all succeed hand the records of a buffer out to stores: each store appends its
share to the log of the pod. Whatever the stores claim, and whether or not they are in memory, the
records of a subject are handed out together or stay together in the buffer, and each record that
is handed out is counted once.

* `Shared`: what storage stages have done to stores and a buffer.
* `Shared.trans`: shares add up.
* `shared_commitIn`: what one storage stage does.
* `Run.shared_stages`: what storage stages in a row do, by induction on the stages. -/

namespace GraphLedger

/-- The records of a subject. -/
def ofSubject (rs : List Record) (subject : String) : List Record :=
  rs.filter fun r => r.statement.subject = subject

theorem filter_flatMap_append {α β : Type} {l : List α} {f g : α → List β} {q : β → Bool} :
    ((l.flatMap g).filter q = [] →
      (l.flatMap fun a => f a ++ g a).filter q = (l.flatMap f).filter q) ∧
    ((l.flatMap f).filter q = [] →
      (l.flatMap fun a => f a ++ g a).filter q = (l.flatMap g).filter q) := by
  simp only [List.filter_flatMap, List.filter_append, List.flatMap_eq_nil_iff]
  constructor
  · exact fun h => List.flatMap_congr fun a ha => by rw [h a ha, List.append_nil]
  · exact fun h => List.flatMap_congr fun a ha => by rw [h a ha, List.nil_append]

/-! ### Stores that receive -/

theorem RecordLog.append_append (podId : String) (rs rs' : List Record) (log : RecordLog) :
    (log.append podId rs).append podId rs' = log.append podId (rs ++ rs') := by
  induction log with
  | nil => simp [append]
  | cons e log ih =>
    obtain ⟨p, old⟩ := e
    by_cases hp : p = podId
    · simp [append, hp]
    · simp [append, hp, ih]

theorem Backend.receiving_receiving (m : Backend) (podId : String) (rs rs' : List Record) :
    (m.receiving podId rs).receiving podId rs' = m.receiving podId (rs ++ rs') := by
  cases rs with
  | nil => rfl
  | cons r rs =>
    cases rs' with
    | nil => simp
    | cons r' rs' => simp [receiving, RecordLog.append_append]

namespace RecordStore

/-- A store after it has stored records of a pod, if it can store. -/
def receiving (s : RecordStore) (podId : String) (rs : List Record) : RecordStore :=
  match s with
  | .memory m => .memory (m.receiving podId rs)
  | .failing id e => .failing id e

@[simp] theorem id_receiving (s : RecordStore) (podId : String) (rs : List Record) :
    (s.receiving podId rs).id = s.id := by
  cases s with
  | memory m => exact m.id_receiving podId rs
  | failing id e => rfl

@[simp] theorem receiving_nil (s : RecordStore) (podId : String) : s.receiving podId [] = s := by
  cases s <;> rfl

theorem receiving_receiving (s : RecordStore) (podId : String) (rs rs' : List Record) :
    (s.receiving podId rs).receiving podId rs' = s.receiving podId (rs ++ rs') := by
  cases s with
  | memory m => exact congrArg memory (m.receiving_receiving podId rs rs')
  | failing id e => rfl

end RecordStore

/-! ### What is handed out -/

/-- All records that stores receive. -/
def handedOut (stores : List RecordStore) (share : String → List Record) : List Record :=
  stores.flatMap fun s => share s.id

/-- Storage stages have handed records of a buffer out to stores, by the identifiers of these. -/
structure Shared (stores : List RecordStore) (b : Buffer) (stores' : List RecordStore) (b' : Buffer)
    (share : String → List Record) : Prop where
  received : stores' = stores.map fun s => s.receiving b.request.podId (share s.id)
  stored : ∀ s ∈ stores, share s.id ≠ [] → ∃ m, s = .memory m
  whole : ∀ subject,
    ofSubject (handedOut stores share) subject = [] ∧
        ofSubject b'.contents subject = ofSubject b.contents subject ∨
      ofSubject (handedOut stores share) subject = ofSubject b.contents subject ∧
        ofSubject b'.contents subject = []
  counted : ∀ t, b'.statistics.count t =
    b.statistics.count t + (handedOut stores share).countP fun r => r.changeType = t
  valid : b'.Valid
  request : b'.request = b.request

namespace Shared
variable {stores stores₁ stores₂ : List RecordStore} {b b₁ b₂ : Buffer}
  {share share₁ share₂ : String → List Record}

theorem refl (stores : List RecordStore) (hv : b.Valid) : Shared stores b stores b fun _ => [] where
  received := by simp
  stored _ _ h := absurd rfl h
  whole subject := Or.inl ⟨by simp [handedOut, ofSubject], rfl⟩
  counted t := by simp [handedOut]
  valid := hv
  request := rfl

/-- **Shares add up.** -/
theorem trans (h₁ : Shared stores b stores₁ b₁ share₁) (h₂ : Shared stores₁ b₁ stores₂ b₂ share₂) :
    Shared stores b stores₂ b₂ fun id => share₁ id ++ share₂ id := by
  have hout : handedOut stores₁ share₂ = handedOut stores share₂ := by
    unfold handedOut
    rw [h₁.received, List.flatMap_map]
    simp only [RecordStore.id_receiving]
  refine ⟨?_, fun s hs hne => ?_, fun subject => ?_, fun t => ?_, h₂.valid,
    h₂.request.trans h₁.request⟩
  · rw [h₂.received, h₁.received, List.map_map, h₁.request]
    refine List.map_congr_left fun s _ => ?_
    simp only [Function.comp, RecordStore.id_receiving, RecordStore.receiving_receiving]
  · by_cases he : share₁ s.id = []
    · -- the store that it is by then can store, and so it could before
      have hmem : s.receiving b.request.podId (share₁ s.id) ∈ stores₁ :=
        h₁.received ▸ List.mem_map_of_mem hs
      rw [he, List.nil_append] at hne
      rw [he, RecordStore.receiving_nil] at hmem
      exact h₂.stored s hmem hne
    · exact h₁.stored s hs he
  · have hwhole₂ := h₂.whole subject
    rw [hout] at hwhole₂
    obtain ⟨hfirst, hsecond⟩ := filter_flatMap_append (l := stores)
      (f := fun s => share₁ s.id) (g := fun s => share₂ s.id)
      (q := fun r => decide (r.statement.subject = subject))
    rcases h₁.whole subject with ⟨hnone, hleft⟩ | ⟨hall, hleft⟩
    · -- all that is handed out of the subject is handed out later
      rw [hleft] at hwhole₂
      have hsame : ofSubject (handedOut stores fun id => share₁ id ++ share₂ id) subject =
          ofSubject (handedOut stores share₂) subject := hsecond hnone
      rw [hsame]
      exact hwhole₂
    · -- nothing of the subject is there any more
      have hnone : ofSubject (handedOut stores share₂) subject = [] ∧
          ofSubject b₂.contents subject = [] := by
        rw [hleft] at hwhole₂
        rcases hwhole₂ with h | h <;> exact h
      exact Or.inr ⟨(hfirst hnone.1).trans hall, hnone.2⟩
  · rw [h₂.counted, h₁.counted, hout, Nat.add_assoc]
    congr 1
    unfold handedOut
    simp only [List.countP_flatMap, Function.comp_def, List.countP_append, List.sum_map_add]

end Shared

/-! ### One stage -/

namespace RecordStore

theorem id_commit {s s' : RecordStore} {b b' : Buffer} (h : s.commit b = .ok (s', b')) :
    s'.id = s.id := by
  cases s with
  | failing id e => cases h
  | memory m =>
    cases h
    show (m.commit b).1.id = m.id
    unfold Backend.commit
    dsimp only
    split <;> rfl

theorem map_id_commitIn {id : String} {b b' : Buffer} {stores stores' : List RecordStore}
    (h : commitIn id stores b = .ok (stores', b')) :
    stores'.map RecordStore.id = stores.map RecordStore.id := by
  induction stores generalizing stores' b' with
  | nil => cases h; rfl
  | cons s stores ih =>
    rw [commitIn] at h
    split_ifs at h
    · cases hs : s.commit b with
      | error e => rw [hs] at h; cases h
      | ok out =>
        rw [hs] at h
        cases h
        rw [List.map_cons, List.map_cons, id_commit hs]
    · cases hs : commitIn id stores b with
      | error e => rw [hs] at h; cases h
      | ok out =>
        rw [hs] at h
        cases h
        rw [List.map_cons, List.map_cons, ih hs]

end RecordStore

section Stage
variable {stores : List RecordStore} (hn : (stores.map RecordStore.id).Nodup)
include hn

theorem handedOut_single {s : RecordStore} (hs : s ∈ stores) (rs : List Record) :
    handedOut stores (fun id => if id = s.id then rs else []) = rs := by
  unfold handedOut
  induction stores with
  | nil => cases hs
  | cons t stores ih =>
    obtain ⟨ht, hn⟩ := List.nodup_cons.mp hn
    rw [List.flatMap_cons]
    dsimp only
    rcases List.mem_cons.mp hs with rfl | hs
    · have hrest : ∀ u ∈ stores, (if u.id = s.id then rs else []) = [] := fun u hu =>
        if_neg fun he => ht (List.mem_map.mpr ⟨u, hu, he⟩)
      rw [if_pos rfl, List.flatMap_eq_nil_iff.mpr hrest, List.append_nil]
    · have hne : t.id ≠ s.id := fun he => ht (he ▸ List.mem_map_of_mem hs)
      rw [if_neg hne, List.nil_append]
      exact ih hn hs

theorem RecordStore.commitIn_cases {id : String} {b : Buffer} (hv : b.Valid)
    {stores' : List RecordStore} {b' : Buffer} (h : commitIn id stores b = .ok (stores', b')) :
    stores' = stores ∧ b' = b ∨
      ∃ m : Backend, .memory m ∈ stores ∧ b' = (m.commit b).2 ∧
        stores' = stores.map fun s => s.receiving b.request.podId
          (if s.id = m.id then m.selector.claimed b.contents else []) := by
  induction stores generalizing stores' b' with
  | nil => cases h; exact Or.inl ⟨rfl, rfl⟩
  | cons t stores ih =>
    obtain ⟨ht, hn⟩ := List.nodup_cons.mp hn
    rw [commitIn] at h
    split_ifs at h with hid
    · cases t with
      | failing _ e => cases h
      | memory m =>
        cases h
        refine Or.inr ⟨m, by simp, rfl, ?_⟩
        have hrest : ∀ s ∈ stores, s.receiving b.request.podId
            (if s.id = m.id then m.selector.claimed b.contents else []) = s := fun s hs => by
          have hne : s.id ≠ m.id := fun he => ht (List.mem_map.mpr ⟨s, hs, he⟩)
          rw [if_neg hne, receiving_nil]
        rw [List.map_cons, List.map_congr_left hrest, List.map_id',
          if_pos (show (RecordStore.memory m).id = m.id from rfl), Backend.commit_eq hv]
        rfl
    · cases hrest : commitIn id stores b with
      | error e => rw [hrest] at h; cases h
      | ok out =>
        obtain ⟨rest, b''⟩ := out
        rw [hrest] at h
        cases h
        rcases ih hn hrest with ⟨rfl, rfl⟩ | ⟨m, hm, rfl, rfl⟩
        · exact Or.inl ⟨rfl, rfl⟩
        · have hne : t.id ≠ m.id := fun he => ht (he ▸ List.mem_map_of_mem hm)
          refine Or.inr ⟨m, List.mem_cons_of_mem t hm, rfl, ?_⟩
          rw [List.map_cons, if_neg hne, receiving_nil]

/-- **One storage stage** hands out what its store claims. -/
theorem shared_commitIn {id : String} {b : Buffer} (hv : b.Valid) {stores' : List RecordStore}
    {b' : Buffer} (h : RecordStore.commitIn id stores b = .ok (stores', b')) :
    ∃ share, Shared stores b stores' b' share := by
  rcases RecordStore.commitIn_cases hn hv h with ⟨rfl, rfl⟩ | ⟨m, hm, rfl, rfl⟩
  · exact ⟨_, .refl _ hv⟩
  let claimed := m.selector.claimed b.contents
  have hout : handedOut stores (fun id => if id = m.id then claimed else []) = claimed :=
    handedOut_single hn hm claimed
  refine ⟨fun id => if id = m.id then claimed else [], rfl, fun s hs hne => ?_, fun subject => ?_,
    fun t => ?_, Backend.valid_commit hv m, Backend.request_commit hv m⟩
  · have hid : s.id = m.id := by
      by_contra hid
      exact hne (if_neg hid)
    exact ⟨m, List.inj_on_of_nodup_map hn hs hm hid⟩
  · -- a subject is claimed with all its records, or with none
    rw [hout, Backend.contents_commit hv]
    simp only [ofSubject, claimed, ClaimSelector.claimed, ClaimSelector.unclaimed,
      List.filter_filter]
    cases hc : m.selector.claims b.contents subject with
    | true =>
      refine Or.inr ⟨List.filter_congr fun x _ => ?_, List.filter_eq_nil_iff.mpr fun x _ => ?_⟩
      · by_cases hx : x.statement.subject = subject <;> simp [hx, hc]
      · by_cases hx : x.statement.subject = subject <;> simp [hx, hc]
    | false =>
      refine Or.inl ⟨List.filter_eq_nil_iff.mpr fun x _ => ?_, List.filter_congr fun x _ => ?_⟩
      · by_cases hx : x.statement.subject = subject <;> simp [hx, hc]
      · by_cases hx : x.statement.subject = subject <;> simp [hx, hc]
  · rw [hout]
    exact Backend.count_statistics_commit hv m t

end Stage

/-! ### Stages in a row -/

/-- **Storage stages that all succeed** hand out shares. -/
theorem Run.shared_stages (now : Instant) {ss : List Stage} {r : Run}
    (hss : ∀ s ∈ ss, s.isStorage = true) (hn : (r.stores.map RecordStore.id).Nodup)
    (hv : r.workspace.buffer.Valid) (h : (Run.stages now ss r).1 = .ok ()) :
    ∃ share, Shared r.stores r.workspace.buffer (Run.stages now ss r).2.stores
      (Run.stages now ss r).2.workspace.buffer share := by
  induction ss generalizing r with
  | nil => exact ⟨_, .refl _ hv⟩
  | cons s ss ih =>
    obtain ⟨hs, hrest⟩ := List.forall_mem_cons.mp hss
    cases s with
    | process name step => cases hs
    | store id =>
      rw [stages, stage, store] at h ⊢
      simp only [stores_notePreprocessed, workspace_notePreprocessed] at h ⊢
      cases hc : RecordStore.commitIn id r.stores r.workspace.buffer with
      | error e => rw [hc] at h; cases h
      | ok out =>
        obtain ⟨stores', b'⟩ := out
        rw [hc] at h
        obtain ⟨share₁, h₁⟩ := shared_commitIn hn hv hc
        have hids := RecordStore.map_id_commitIn hc
        obtain ⟨share₂, h₂⟩ := ih hrest (hids ▸ hn) h₁.valid h
        exact ⟨_, h₁.trans h₂⟩

end GraphLedger
