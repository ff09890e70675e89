import GraphLedger.Proofs.Storage.Routing
import Mathlib.Data.List.Perm.Basic

/-! # Stages that claim everything

If some storage stage claims everything, every record has a backend, and exactly one. What the
backends receive is then the whole buffer, each record once; nothing is left, and all is counted.

* `flatMap_filter_perm`: what is split by keys is the same when put together.
* `flatMap_share_perm`, `existsUnique_share`: each record is in one share, once.
* `Routed.statistics_eq`: the buffer has counted every record. -/

namespace GraphLedger

/-- **What is split by keys** is the same when it is put together, up to the order. -/
theorem flatMap_filter_perm {α κ : Type} [DecidableEq κ] {f : α → Option κ} {keys : List κ} :
    ∀ {l : List α}, keys.Nodup → (∀ a ∈ l, ∃ k ∈ keys, f a = some k) →
      (keys.flatMap fun k => l.filter fun a => f a = some k).Perm l := by
  induction keys with
  | nil =>
    intro l _ hl
    cases l with
    | nil => exact .nil
    | cons a l =>
      obtain ⟨k, hk, -⟩ := hl a (by simp)
      cases hk
  | cons k keys ih =>
    intro l hn hl
    obtain ⟨hk, hn⟩ := List.nodup_cons.mp hn
    -- what the other keys get is what they get of the elements that `k` does not get
    have hrest : ∀ k' ∈ keys, (l.filter fun a => f a = some k') =
        (l.filter fun a => !decide (f a = some k)).filter fun a => f a = some k' := by
      intro k' hk'
      rw [List.filter_filter]
      refine List.filter_congr fun a _ => ?_
      by_cases ha : f a = some k'
      · have hne : k' ≠ k := fun he => hk (he ▸ hk')
        simp [ha, hne]
      · simp [ha]
    rw [List.flatMap_cons, List.flatMap_congr hrest]
    refine (List.Perm.append_left _ (ih hn fun a ha => ?_)).trans
      (List.filter_append_perm (fun a => decide (f a = some k)) l)
    obtain ⟨hal, hne⟩ := List.mem_filter.mp ha
    obtain ⟨k', hk', hf⟩ := hl a hal
    rcases List.mem_cons.mp hk' with rfl | hk'
    · simp [hf] at hne
    · exact ⟨k', hk', hf⟩

namespace Route
variable {routes : List Route} (hall : ∃ q ∈ routes, q.2 = .all)
include hall

theorem exists_first? (rs : List Record) (subject : String) :
    ∃ q ∈ routes, first? routes rs subject = some q.1 := by
  obtain ⟨q, hq, hqall⟩ := hall
  have hsome : (routes.find? fun q => q.2.claims rs subject).isSome :=
    List.find?_isSome.mpr ⟨q, hq, by rw [hqall]; rfl⟩
  obtain ⟨q', hq'⟩ := Option.isSome_iff_exists.mp hsome
  exact ⟨q', List.mem_of_find?_eq_some hq', by rw [first?, hq']; rfl⟩

/-- **Nothing is left** by stages of which one claims everything. -/
theorem rest_eq_nil (rs : List Record) : rest routes rs = [] :=
  List.filter_eq_nil_iff.mpr fun x _ => by
    obtain ⟨q, -, hf⟩ := exists_first? hall rs x.statement.subject
    simp [hf]

section Backends
variable {backends : List Backend} (hsubset : routes ⊆ backends.map Backend.route)
include hsubset

theorem exists_backend (rs : List Record) (subject : String) :
    ∃ m ∈ backends, first? routes rs subject = some m.id := by
  obtain ⟨q, hq, hf⟩ := exists_first? hall rs subject
  obtain ⟨m, hm, rfl⟩ := List.mem_map.mp (hsubset hq)
  exact ⟨m, hm, hf⟩

variable (hn : (backends.map Backend.id).Nodup)
include hn

/-- **The shares make up the whole**, each record as often as it is there. -/
theorem flatMap_share_perm (rs : List Record) :
    (backends.flatMap fun m => share routes rs m.id).Perm rs := by
  have hperm := flatMap_filter_perm hn (l := rs)
    (f := fun x => first? routes rs x.statement.subject) fun x _ => by
      obtain ⟨m, hm, hf⟩ := exists_backend hall hsubset rs x.statement.subject
      exact ⟨m.id, List.mem_map_of_mem hm, hf⟩
  rw [List.flatMap_map] at hperm
  exact hperm

/-- **Each record is in one share.** -/
theorem existsUnique_share {rs : List Record} {x : Record} (hx : x ∈ rs) :
    ∃! m, m ∈ backends ∧ x ∈ share routes rs m.id := by
  obtain ⟨m, hm, hf⟩ := exists_backend hall hsubset rs x.statement.subject
  refine ⟨m, ⟨hm, List.mem_filter.mpr ⟨hx, by simpa using hf⟩⟩, ?_⟩
  rintro m' ⟨hm', hx'⟩
  have hf' : first? routes rs x.statement.subject = some m'.id := by
    simpa using (List.mem_filter.mp hx').2
  exact Backend.eq_of_id hn hm' hm (Option.some_inj.mp (hf'.symm.trans hf))

end Backends

end Route

/-- **Every record is counted** if some stage claims everything. -/
theorem Routed.statistics_eq {routes : List Route} {backends : List Backend} {b : Buffer} {r : Run}
    (h : Routed routes backends b r) (hall : ∃ q ∈ routes, q.2 = .all)
    (hb : b.statistics = ⟨0, 0⟩) :
    r.workspace.buffer.statistics =
      ⟨b.contents.countP Record.isInsert, b.contents.countP Record.isDelete⟩ := by
  have hcount : ∀ t, r.workspace.buffer.statistics.count t =
      b.contents.countP fun x => x.changeType = t := fun t => by
    have hcounted := h.counted t
    have hzero : b.statistics.count t = 0 := by rw [hb]; cases t <;> rfl
    rw [Route.rest_eq_nil hall, hzero, List.countP_nil, Nat.add_zero, Nat.zero_add] at hcounted
    exact hcounted
  exact congrArg₂ Statistics.mk (hcount .insert) (hcount .delete)

end GraphLedger
