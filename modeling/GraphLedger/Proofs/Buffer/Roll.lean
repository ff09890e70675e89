import GraphLedger.Proofs.Buffer.Calls
import Mathlib.Data.List.Nodup

/-! # Buffers as one list

A buffer keeps insertions and deletions apart, each by position and by record. A *roll* is what it
amounts to: one list of records in the order in which they were added, each with the number of
additions before it, and none the same as another. A record that was removed and is added again goes
to the end.

* `Tracks`: a buffer holds what a roll says.
* `Tracks.call`: a buffer and its roll answer each call alike, and the buffer stays on its roll.
* `calls_refine_roll`: every buffer of every sequence of calls is on its roll. -/

namespace GraphLedger

/-- The held records in the order of their addition, each with the number of additions before it;
the number of additions so far, and how many records were stored. -/
structure Roll where
  entries : List (Nat × Record)
  additions : Nat
  stored : Statistics

namespace Roll

/-- The roll before the first addition. -/
def empty : Roll := ⟨[], 0, ⟨0, 0⟩⟩

/-- The records in the order of their addition. -/
def records (l : Roll) : List Record := l.entries.map Prod.snd

/-- Whether a record is on the roll. -/
def has (l : Roll) (r : Record) : Bool := l.entries.any fun p => p.2.same r

/-- Puts a record at the end, unless it is on the roll. -/
def addOne (l : Roll) (r : Record) : Roll :=
  if l.has r then l else ⟨l.entries ++ [(l.additions, r)], l.additions + 1, l.stored⟩

/-- Strikes a record off. -/
def removeOne (l : Roll) (stored : Bool) (r : Record) : Roll :=
  ⟨l.entries.filter fun p => !p.2.same r, l.additions,
    if l.has r && stored then Buffer.countStored l.stored r.changeType else l.stored⟩

/-- Adds records one after the other. -/
def add (l : Roll) (rs : List Record) : Roll := rs.foldl addOne l

/-- Strikes records off one after the other. -/
def remove (l : Roll) (rs : List Record) (stored : Bool) : Roll := rs.foldl (removeOne · stored) l

/-- The records of a type that pass a filter, in the order of their addition. -/
def matching (l : Roll) (f : RecordFilter) (t : ChangeType) : List Record :=
  l.records.filter fun r => r.changeType = t && f.accepts r

/-- The number of additions before a record. -/
def position? (l : Roll) (r : Record) : Option Nat :=
  (l.entries.find? fun p => p.2.same r).map Prod.fst

/-- Answers a call; the roll as it is afterwards. -/
def call (l : Roll) : BufferCall → BufferAnswer × Roll
  | .add rs => (.count ((l.add rs).additions - l.additions), l.add rs)
  | .remove rs stored =>
    (.count (l.entries.length - (l.remove rs stored).entries.length), l.remove rs stored)
  | .stream f => (.records (l.matching f .delete ++ l.matching f .insert), l)
  | .position r => (.position (l.position? r), l)
  | .statistics => (.statistics l.stored, l)

/-- Answers calls one after the other. -/
def calls (l : Roll) (cs : List BufferCall) : List BufferAnswer × Roll :=
  BufferCall.runAll call l cs

end Roll

namespace Buffer

/-- A buffer holds the records of a roll, those of each type with their numbers for positions. -/
structure Tracks (b : Buffer) (l : Roll) : Prop where
  valid : b.Valid
  inOrder : ∀ t, (b.held t).inOrder = l.entries.filter fun p => p.2.changeType = t
  next : b.nextPosition = l.additions
  stored : b.statistics = l.stored
  sorted : l.entries.Pairwise fun p q => p.1 < q.1

theorem tracks_openAt (r : Request) (time : Instant) : (openAt r time).Tracks .empty where
  valid := valid_openAt r time
  inOrder t := by rw [held_openAt]; rfl
  next := rfl
  stored := rfl
  sorted := .nil

/-! ### Reading -/

section Reading
variable {b : Buffer} {l : Roll} (h : b.Tracks l)
include h

theorem Tracks.mem_entries {p : Nat × Record} :
    p ∈ l.entries ↔ p ∈ (b.held p.2.changeType).inOrder := by
  rw [h.inOrder, List.mem_filter]; simp

theorem Tracks.holds_iff {r : Record} : b.holds r ↔ l.has r := by
  unfold holds Roll.has
  rw [(h.valid.held _).has_iff, List.any_eq_true]
  constructor
  · rintro ⟨p, hp, hs⟩
    rw [h.inOrder] at hp
    exact ⟨p, (List.mem_filter.mp hp).1, hs⟩
  · rintro ⟨p, hp, hs⟩
    rw [h.mem_entries, (Record.same_iff.mp hs).2.1] at hp
    exact ⟨p, hp, hs⟩

theorem Tracks.below {p : Nat × Record} (hp : p ∈ l.entries) : p.1 < l.additions := by
  rw [← h.next]; exact h.valid.below _ p (h.mem_entries.mp hp)

/-- **The records of a roll are distinct.** -/
theorem Tracks.distinct : l.entries.Pairwise fun p q => ¬ p.2.same q.2 := by
  have hnodup : l.entries.Nodup := h.sorted.imp fun hlt he => by rw [he] at hlt; omega
  refine hnodup.pairwise_of_forall_ne fun p hp q hq hne hs => hne ?_
  have ht := (Record.same_iff.mp hs).2.1
  rw [h.mem_entries] at hp hq
  rw [← ht] at hq
  exact (h.valid.held _).eq_of_same hp hq hs

theorem Tracks.position?_eq_some_iff {r : Record} {n : Nat} :
    b.position? r = some n ↔ ∃ x, (n, x) ∈ l.entries ∧ x.same r := by
  unfold position?
  rw [(h.valid.held _).position?_eq_some_iff]
  refine exists_congr fun x => and_congr_left fun hs => ?_
  rw [h.mem_entries, (Record.same_iff.mp hs).2.1]

theorem Tracks.position?_eq (r : Record) : b.position? r = l.position? r := by
  refine Option.ext fun n => ?_
  rw [h.position?_eq_some_iff, Roll.position?, Option.map_eq_some_iff]
  constructor
  · rintro ⟨x, hx, hs⟩
    have hsome : (l.entries.find? fun p => p.2.same r).isSome :=
      List.find?_isSome.mpr ⟨(n, x), hx, hs⟩
    obtain ⟨⟨m, y⟩, hf⟩ := Option.isSome_iff_exists.mp hsome
    have hys : y.same r := by simpa using List.find?_some hf
    have hm : b.position? r = some m :=
      h.position?_eq_some_iff.mpr ⟨y, List.mem_of_find?_eq_some hf, hys⟩
    have hn : b.position? r = some n := h.position?_eq_some_iff.mpr ⟨x, hx, hs⟩
    exact ⟨(m, y), hf, Option.some.inj (hm.symm.trans hn)⟩
  · rintro ⟨⟨m, y⟩, hf, rfl⟩
    exact ⟨y, List.mem_of_find?_eq_some hf, by simpa using List.find?_some hf⟩

theorem Tracks.records_held (t : ChangeType) :
    (b.held t).records = l.records.filter fun r => r.changeType = t := by
  unfold Held.records Roll.records
  rw [h.inOrder, List.filter_map]
  rfl

/-- **Reading** gives the deletions and then the insertions of the roll. -/
theorem Tracks.collect_eq (f : RecordFilter) :
    b.collect f = l.matching f .delete ++ l.matching f .insert := by
  have hside : ∀ t, (b.held t).records.filter f.accepts = l.matching f t := fun t => by
    rw [h.records_held, List.filter_filter]
    exact List.filter_congr fun r _ => Bool.and_comm _ _
  rw [h.valid.collect_eq, contents, List.filter_append]
  exact congrArg₂ (· ++ ·) (hside .delete) (hside .insert)

theorem Tracks.size_eq : b.size = l.entries.length := by
  have hside : ∀ t, (b.held t).length = l.entries.countP fun p => p.2.changeType = t := fun t => by
    rw [Held.length, h.inOrder, List.countP_eq_length_filter]
  have hsplit := List.length_eq_countP_add_countP
    (fun p : Nat × Record => p.2.changeType = .insert) (l := l.entries)
  have hother : l.entries.countP (fun p => decide ¬ decide (p.2.changeType = .insert) = true) =
      l.entries.countP fun p => p.2.changeType = .delete :=
    List.countP_congr fun p _ => by cases p.2.changeType <;> simp
  have hi := hside .insert
  have hd := hside .delete
  have hsize : b.size = (b.held .insert).length + (b.held .delete).length := rfl
  omega

end Reading

/-! ### Adding and removing -/

theorem Tracks.addOne {b : Buffer} {l : Roll} (h : b.Tracks l) (r : Record) :
    (b.addOne r).Tracks (l.addOne r) := by
  by_cases hr : b.holds r
  · rw [addOne_of_holds hr, Roll.addOne, if_pos (h.holds_iff.mp hr)]
    exact h
  · rw [Roll.addOne, if_neg fun hl => hr (h.holds_iff.mpr hl)]
    refine ⟨h.valid.addOne r, fun t => ?_, ?_, ?_, ?_⟩
    · rw [held_addOne hr, List.filter_append, ← h.inOrder]
      by_cases ht : t = r.changeType
      · subst ht
        rw [if_pos rfl, Held.inOrder_insert r (h.valid.below _), h.next]
        simp
      · rw [if_neg ht]
        simp [Ne.symm ht]
    · rw [nextPosition_addOne hr, h.next]
    · rw [statistics_addOne, h.stored]
    · rw [List.pairwise_append]
      refine ⟨h.sorted, List.pairwise_singleton _ _, fun p hp q hq => ?_⟩
      rw [List.mem_singleton] at hq
      subst hq
      exact h.below hp

theorem Tracks.removeOne {b : Buffer} {l : Roll} (h : b.Tracks l) (stored : Bool) (r : Record) :
    (b.removeOne stored r).Tracks (l.removeOne stored r) := by
  refine ⟨h.valid.removeOne stored r, fun t => ?_, ?_, ?_, h.sorted.filter _⟩
  · rw [h.valid.inOrder_removeOne, h.inOrder, Roll.removeOne, List.filter_filter,
      List.filter_filter]
    exact List.filter_congr fun p _ => Bool.and_comm _ _
  · rw [nextPosition_removeOne]; exact h.next
  · unfold Buffer.removeOne Roll.removeOne
    by_cases hr : b.holds r
    · simp only [if_pos hr, h.holds_iff.mp hr, Bool.true_and, h.stored]
    · have hl : l.has r = false := by simpa using fun hl => hr (h.holds_iff.mpr hl)
      rw [if_neg hr]
      simp [hl, h.stored]

theorem Tracks.add {b : Buffer} {l : Roll} (h : b.Tracks l) (rs : List Record) :
    (b.add rs).Tracks (l.add rs) ∧ (l.add rs).additions = l.additions + b.addedCount rs := by
  induction rs generalizing b l with
  | nil => exact ⟨h, rfl⟩
  | cons r rs ih =>
    obtain ⟨ht, hc⟩ := ih (h.addOne r)
    refine ⟨ht, hc.trans ?_⟩
    rw [addedCount]
    by_cases hr : b.holds r
    · rw [Roll.addOne, if_pos (h.holds_iff.mp hr), if_pos hr, Nat.zero_add]
    · rw [Roll.addOne, if_neg fun hl => hr (h.holds_iff.mpr hl), if_neg hr, Nat.add_assoc]

theorem Tracks.remove {b : Buffer} {l : Roll} (h : b.Tracks l) (rs : List Record)
    (stored : Bool) :
    (b.remove rs stored).Tracks (l.remove rs stored) ∧
      (l.remove rs stored).entries.length + b.removedCount rs stored = l.entries.length := by
  induction rs generalizing b l with
  | nil => exact ⟨h, rfl⟩
  | cons r rs ih =>
    obtain ⟨ht, hc⟩ := ih (h.removeOne stored r)
    refine ⟨ht, ?_⟩
    have hsize : (b.removeOne stored r).size + (if b.holds r then 1 else 0) = b.size := by
      have hi := h.valid.length_held_removeOne stored r .insert
      have hd := h.valid.length_held_removeOne stored r .delete
      have hs : ∀ b : Buffer, b.size = (b.held .insert).length + (b.held .delete).length :=
        fun _ => rfl
      rw [hs, hs]
      by_cases hr : b.holds r <;> cases hty : r.changeType <;> simp [hr, hty] at hi hd ⊢ <;> omega
    rw [h.size_eq, (h.removeOne stored r).size_eq] at hsize
    rw [Roll.remove, List.foldl_cons, removedCount]
    have hc' : ((rs.foldl (Roll.removeOne · stored) (l.removeOne stored r)).entries.length) +
      (b.removeOne stored r).removedCount rs stored = (l.removeOne stored r).entries.length := hc
    omega

/-- **A call** is answered alike by a buffer and its roll, and they stay together. -/
theorem Tracks.call {b : Buffer} {l : Roll} (h : b.Tracks l) (c : BufferCall) :
    (b.call c).1 = (l.call c).1 ∧ (b.call c).2.Tracks (l.call c).2 := by
  cases c with
  | add rs =>
    obtain ⟨ht, hc⟩ := h.add rs
    refine ⟨congrArg BufferAnswer.count ?_, ht⟩
    omega
  | remove rs stored =>
    obtain ⟨ht, hc⟩ := h.remove rs stored
    refine ⟨congrArg BufferAnswer.count ?_, ht⟩
    omega
  | stream f => exact ⟨congrArg BufferAnswer.records (h.collect_eq f), h⟩
  | position r => exact ⟨congrArg BufferAnswer.position (h.position?_eq r), h⟩
  | statistics => exact ⟨congrArg BufferAnswer.statistics h.stored, h⟩

theorem tracks_calls (r : Request) (time : Instant) (cs : List BufferCall) :
    ((openAt r time).calls cs).1 = (Roll.empty.calls cs).1 ∧
      ((openAt r time).calls cs).2.Tracks (Roll.empty.calls cs).2 :=
  BufferCall.runAll_simulates (fun _ _ c h => h.call c) cs _ _ (tracks_openAt r time)

/-! ### Positions -/

theorem Tracks.positions {b : Buffer} {l : Roll} (h : b.Tracks l) :
    l.records.map b.position? = (l.entries.map Prod.fst).map some := by
  unfold Roll.records
  rw [List.map_map, List.map_map]
  exact List.map_congr_left fun p hp =>
    h.position?_eq_some_iff.mpr ⟨p.2, hp, Record.same_refl p.2⟩

theorem Tracks.position?_of_not_mem {b : Buffer} {l : Roll} (h : b.Tracks l) {r : Record}
    (hr : ∀ x ∈ l.records, ¬ x.same r) :
    b.position? r = none ∧ (b.add [r]).position? r = some l.additions := by
  have hno : ¬ l.has r := by
    unfold Roll.has
    rw [List.any_eq_true]
    rintro ⟨p, hp, hs⟩
    exact hr p.2 (List.mem_map_of_mem hp) hs
  constructor
  · rw [Option.eq_none_iff_forall_ne_some]
    intro n hn
    obtain ⟨x, hx, hs⟩ := h.position?_eq_some_iff.mp hn
    exact hr x (List.mem_map_of_mem hx) hs
  · have hend : (l.addOne r).entries = l.entries ++ [(l.additions, r)] := by
      rw [Roll.addOne, if_neg hno]
    have hmem : (l.additions, r) ∈ (l.addOne r).entries := by rw [hend]; simp
    exact (h.addOne r).position?_eq_some_iff.mpr ⟨r, hmem, Record.same_refl r⟩

/-! ### All calls -/

/-- **A buffer behaves as one list.** Whatever is called, a new buffer answers as its roll. The
records of the roll are distinct, and reading gives those that pass the filter, deletions first,
each type in the order of addition. Positions grow along the roll, across both types; what is not on
it has none, and gets one behind all others when it is added; a position is not given again. Adding
a list a second time changes nothing. For each type, as many additions took effect as records are
held or were removed, and as many stored records are counted as were removed as such. -/
theorem calls_refine_roll (request : Request) (time : Instant) (cs : List BufferCall) :
    let b := ((openAt request time).calls cs).2
    let l := (Roll.empty.calls cs).2
    let done := (openAt request time).effective (cs.flatMap BufferCall.steps)
    ((openAt request time).calls cs).1 = (Roll.empty.calls cs).1 ∧
    (∀ f, b.collect f = l.matching f .delete ++ l.matching f .insert) ∧
    l.records.Pairwise (fun x y => ¬ x.same y) ∧
    (∃ ns : List Nat, l.records.map b.position? = ns.map some ∧ ns.Pairwise (· < ·) ∧
      ∀ n ∈ ns, n < l.additions) ∧
    (∀ r, (∀ x ∈ l.records, ¬ x.same r) →
      b.position? r = none ∧ (b.add [r]).position? r = some l.additions) ∧
    (∀ more r n, (b.calls more).2.position? r = some n →
      b.position? r = some n ∨ l.additions ≤ n) ∧
    (∀ rs, (b.add rs).add rs = b.add rs ∧ (b.add rs).addedCount rs = 0) ∧
    ∀ t, done.countP (BufferStep.adds t) =
        (b.held t).length + done.countP (BufferStep.removes t) ∧
      b.statistics.count t = done.countP (BufferStep.stores t) := by
  intro b l done
  obtain ⟨ha, h⟩ := tracks_calls request time cs
  have hv : b.Valid := h.valid
  refine ⟨ha, h.collect_eq, List.pairwise_map.mpr h.distinct, ?_, fun r => h.position?_of_not_mem,
    fun more r n hn => ?_, hv.add_add, fun t => ⟨?_, ?_⟩⟩
  · refine ⟨l.entries.map Prod.fst, h.positions, List.pairwise_map.mpr h.sorted, fun n hn => ?_⟩
    obtain ⟨p, hp, rfl⟩ := List.mem_map.mp hn
    exact h.below hp
  · rw [← show b.nextPosition = l.additions from h.next]
    exact hv.position?_calls more hn
  · have hlen := (valid_openAt request time).length_held_steps t (cs.flatMap BufferCall.steps)
    rw [← calls_snd, held_openAt, show Held.empty.length = 0 from rfl, Nat.zero_add] at hlen
    exact hlen
  · have hst := count_statistics_steps (openAt request time) t (cs.flatMap BufferCall.steps)
    rw [← calls_snd] at hst
    refine hst.trans ?_
    cases t <;> exact Nat.zero_add _

end Buffer

end GraphLedger
