import GraphLedger.Proofs.Buffer.Held

/-! # Valid buffers

A buffer is *valid* if the records of each type are kept well, are of that type, and have positions
below the next one. The empty buffer is valid, and adding and removing keep a buffer valid, so every
buffer of a run is.

* `Valid.contents_pairwise`: no two records of a buffer are the same.
* `Valid.collect_eq`: reading a type at a time is reading everything.
* `Valid.holds_add`, `Valid.add_add`: what is added is held, and adding it again changes nothing.
* `Valid.contents_remove`: removal leaves the other records in their order.
* `Valid.count_statistics_remove`: what is removed as stored is counted, each record once. -/

namespace GraphLedger.Buffer

/-- The records of each type are well kept, at positions that were already given. -/
structure Valid (b : Buffer) : Prop where
  held : ∀ t, (b.held t).Valid
  typed : ∀ t, ∀ p ∈ (b.held t).inOrder, p.2.changeType = t
  below : ∀ t, ∀ p ∈ (b.held t).inOrder, p.1 < b.nextPosition

/-- A record comes before another: deletions first, then what has the lower position. -/
def Precedes (b : Buffer) (x y : Record) : Prop :=
  x.changeType = .delete ∧ y.changeType = .insert ∨
    x.changeType = y.changeType ∧
      ∃ m n, b.position? x = some m ∧ b.position? y = some n ∧ m < n

theorem held_openAt (r : Request) (time : Instant) (t : ChangeType) :
    (openAt r time).held t = .empty := by
  cases t <;> rfl

theorem valid_openAt (r : Request) (time : Instant) : (openAt r time).Valid where
  held t := by rw [held_openAt]; exact Held.valid_empty
  typed t := by rw [held_openAt]; simp [Held.empty]
  below t := by rw [held_openAt]; simp [Held.empty]

/-! ### Contents -/

section Contents
variable {b : Buffer} (hv : b.Valid)
include hv

theorem Valid.mem_contents {x : Record} :
    x ∈ b.contents ↔ ∃ n, (n, x) ∈ (b.held x.changeType).inOrder := by
  unfold contents Held.records
  simp only [List.mem_append, List.mem_map, Prod.exists, exists_eq_right]
  constructor
  · rintro (⟨n, hn⟩ | ⟨n, hn⟩)
    · have ht : x.changeType = .delete := hv.typed .delete _ hn
      exact ⟨n, by rw [ht]; exact hn⟩
    · have ht : x.changeType = .insert := hv.typed .insert _ hn
      exact ⟨n, by rw [ht]; exact hn⟩
  · rintro ⟨n, hn⟩
    cases ht : x.changeType with
    | insert => exact Or.inr ⟨n, by rw [ht] at hn; exact hn⟩
    | delete => exact Or.inl ⟨n, by rw [ht] at hn; exact hn⟩

theorem Valid.holds_iff {r : Record} : b.holds r ↔ ∃ x ∈ b.contents, x.same r := by
  unfold holds
  rw [(hv.held _).has_iff]
  constructor
  · rintro ⟨⟨n, x⟩, hx, hs⟩
    exact ⟨x, hv.mem_contents.mpr ⟨n, by rw [hv.typed _ _ hx]; exact hx⟩, hs⟩
  · rintro ⟨x, hx, hs⟩
    obtain ⟨n, hn⟩ := hv.mem_contents.mp hx
    exact ⟨(n, x), by rw [← (Record.same_iff.mp hs).2.1]; exact hn, hs⟩

/-- **No two records of a buffer are the same.** -/
theorem Valid.contents_pairwise : b.contents.Pairwise fun x y => ¬ x.same y := by
  have hrecords : ∀ t, (b.held t).records.Pairwise fun x y => ¬ x.same y :=
    fun t => List.pairwise_map.mpr (hv.held t).distinct
  refine List.pairwise_append.mpr ⟨hrecords .delete, hrecords .insert, fun x hx y hy hs => ?_⟩
  obtain ⟨p, hp, rfl⟩ := List.mem_map.mp hx
  obtain ⟨q, hq, rfl⟩ := List.mem_map.mp hy
  have hp' : p.2.changeType = .delete := hv.typed .delete p hp
  have hq' : q.2.changeType = .insert := hv.typed .insert q hq
  have hpq := (Record.same_iff.mp hs).2.1
  rw [hp', hq'] at hpq
  cases hpq

/-- **A buffer is read** with deletions before insertions, and each type by position. -/
theorem Valid.contents_ordered : b.contents.Pairwise b.Precedes := by
  have hside : ∀ t, (b.held t).records.Pairwise b.Precedes := by
    refine fun t => List.pairwise_map.mpr ((hv.held t).sorted.imp_of_mem fun {p q} hp hq hlt => ?_)
    have hpt := hv.typed t p hp
    have hqt := hv.typed t q hq
    refine Or.inr ⟨hpt.trans hqt.symm, p.1, q.1, ?_, ?_, hlt⟩
    · rw [position?, hpt]
      exact (hv.held t).position?_eq_some_iff.mpr ⟨p.2, hp, Record.same_refl _⟩
    · rw [position?, hqt]
      exact (hv.held t).position?_eq_some_iff.mpr ⟨q.2, hq, Record.same_refl _⟩
  refine List.pairwise_append.mpr ⟨hside .delete, hside .insert, fun x hx y hy => Or.inl ?_⟩
  obtain ⟨p, hp, rfl⟩ := List.mem_map.mp hx
  obtain ⟨q, hq, rfl⟩ := List.mem_map.mp hy
  exact ⟨hv.typed .delete p hp, hv.typed .insert q hq⟩

/-- What a filter does not admit does not pass it, so leaving it out early loses nothing. -/
theorem Valid.collect_eq (f : RecordFilter) : b.collect f = b.contents.filter f.accepts := by
  have hside : ∀ t, (if f.admits t then (b.held t).records else []).filter f.accepts =
      (b.held t).records.filter f.accepts := by
    intro t
    by_cases ha : f.admits t
    · rw [if_pos ha]
    · rw [if_neg ha, List.filter_nil]
      refine (List.filter_eq_nil_iff.mpr fun x hx hacc => ha ?_).symm
      obtain ⟨p, hp, rfl⟩ := List.mem_map.mp hx
      simp only [RecordFilter.accepts, Bool.and_eq_true, hv.typed t p hp] at hacc
      exact hacc.1.1.1
  unfold collect ofTypes contents
  rw [List.filter_append, List.filter_append]
  exact congrArg₂ (· ++ ·) (hside .delete) (hside .insert)

end Contents

/-! ### Adding -/

theorem Valid.addOne {b : Buffer} (hv : b.Valid) (r : Record) : (b.addOne r).Valid := by
  by_cases h : b.holds r
  · rw [addOne_of_holds h]; exact hv
  have hbelow := hv.below r.changeType
  refine ⟨fun t => ?_, fun t p hp => ?_, fun t p hp => ?_⟩
  · rw [held_addOne h]
    split_ifs with ht
    · subst ht; exact (hv.held _).insert hbelow h
    · exact hv.held t
  · rw [held_addOne h] at hp
    split_ifs at hp with ht
    · subst ht
      rw [Held.inOrder_insert r hbelow, List.mem_append, List.mem_singleton] at hp
      rcases hp with hp | rfl
      · exact hv.typed _ p hp
      · rfl
    · exact hv.typed t p hp
  · rw [held_addOne h] at hp
    rw [nextPosition_addOne h]
    split_ifs at hp with ht
    · subst ht
      rw [Held.inOrder_insert r hbelow, List.mem_append, List.mem_singleton] at hp
      rcases hp with hp | rfl
      · have := hbelow p hp; omega
      · exact Nat.lt_succ_self _
    · have := hv.below t p hp; omega

theorem Valid.add {b : Buffer} (hv : b.Valid) (rs : List Record) : (b.add rs).Valid := by
  induction rs generalizing b with
  | nil => exact hv
  | cons r rs ih => exact ih (hv.addOne r)

@[simp] theorem request_add (b : Buffer) (rs : List Record) : (b.add rs).request = b.request := by
  induction rs generalizing b with
  | nil => rfl
  | cons r rs ih => exact (ih (b.addOne r)).trans (request_addOne b r)

@[simp] theorem requestTimestamp_add (b : Buffer) (rs : List Record) :
    (b.add rs).requestTimestamp = b.requestTimestamp := by
  induction rs generalizing b with
  | nil => rfl
  | cons r rs ih => exact (ih (b.addOne r)).trans (requestTimestamp_addOne b r)

theorem record_add (b : Buffer) (rs : List Record) : (b.add rs).record = b.record := by
  funext t st
  simp only [record, request_add, requestTimestamp_add]

@[simp] theorem statistics_add (b : Buffer) (rs : List Record) :
    (b.add rs).statistics = b.statistics := by
  induction rs generalizing b with
  | nil => rfl
  | cons r rs ih => exact (ih (b.addOne r)).trans (statistics_addOne b r)

theorem add_append (b : Buffer) (rs rs' : List Record) : b.add (rs ++ rs') = (b.add rs).add rs' :=
  List.foldl_append

theorem Valid.holds_addOne {b : Buffer} (hv : b.Valid) (r x : Record) :
    (b.addOne r).holds x ↔ b.holds x ∨ r.same x := by
  by_cases h : b.holds r
  · rw [addOne_of_holds h]
    refine ⟨Or.inl, fun hx => hx.elim id fun hs => ?_⟩
    obtain ⟨y, hy, hyr⟩ := hv.holds_iff.mp h
    exact hv.holds_iff.mpr ⟨y, hy, Record.same_trans hyr hs⟩
  · unfold holds
    rw [((hv.addOne r).held _).has_iff, (hv.held _).has_iff, held_addOne h]
    by_cases ht : x.changeType = r.changeType
    · rw [if_pos ht, ht, Held.inOrder_insert r (hv.below _)]
      simp only [List.mem_append, List.mem_singleton, or_and_right, exists_or, exists_eq_left]
    · rw [if_neg ht]
      exact ⟨Or.inl, fun hx => hx.elim id fun hs => absurd (Record.same_iff.mp hs).2.1.symm ht⟩

theorem Valid.holds_add {b : Buffer} (hv : b.Valid) (rs : List Record) (x : Record) :
    (b.add rs).holds x ↔ b.holds x ∨ ∃ r ∈ rs, r.same x := by
  induction rs generalizing b with
  | nil => simp [Buffer.add]
  | cons r rs ih =>
    have h := ih (hv.addOne r)
    rw [hv.holds_addOne] at h
    simp only [List.mem_cons, exists_eq_or_imp, ← or_assoc]
    exact h

theorem add_of_holds {b : Buffer} {rs : List Record} (h : ∀ r ∈ rs, b.holds r) :
    b.add rs = b ∧ b.addedCount rs = 0 := by
  induction rs with
  | nil => exact ⟨rfl, rfl⟩
  | cons r rs ih =>
    have hr : b.holds r := h r (by simp)
    obtain ⟨ih1, ih2⟩ := ih fun x hx => h x (by simp [hx])
    constructor
    · rw [add, List.foldl_cons, addOne_of_holds hr]; exact ih1
    · rw [addedCount, if_pos hr, addOne_of_holds hr, ih2]

/-- **Adding a list a second time** changes nothing, and brings none. -/
theorem Valid.add_add {b : Buffer} (hv : b.Valid) (rs : List Record) :
    (b.add rs).add rs = b.add rs ∧ (b.add rs).addedCount rs = 0 :=
  add_of_holds fun r hr => (hv.holds_add rs r).mpr (Or.inr ⟨r, hr, Record.same_refl r⟩)

/-! ### Removing -/

theorem Valid.inOrder_removeOne {b : Buffer} (hv : b.Valid) (stored : Bool) (r : Record)
    (t : ChangeType) :
    ((b.removeOne stored r).held t).inOrder =
      (b.held t).inOrder.filter fun p => !p.2.same r := by
  have hnone : (∀ p ∈ (b.held t).inOrder, ¬ p.2.same r) →
      (b.held t).inOrder = (b.held t).inOrder.filter fun p => !p.2.same r := fun h =>
    (List.filter_eq_self.mpr fun p hp => by simpa using h p hp).symm
  by_cases h : b.holds r
  · rw [held_removeOne stored h]
    split_ifs with ht
    · exact (hv.held t).inOrder_erase r
    · refine hnone fun p hp hs => ht ?_
      rw [← hv.typed t p hp]; exact (Record.same_iff.mp hs).2.1
  · rw [removeOne_of_not_holds stored h]
    refine hnone fun p hp hs => h ?_
    have ht : r.changeType = t := (Record.same_iff.mp hs).2.1.symm.trans (hv.typed t p hp)
    exact ((hv.held _).has_iff).mpr ⟨p, by rw [ht]; exact hp, hs⟩

theorem Valid.removeOne {b : Buffer} (hv : b.Valid) (stored : Bool) (r : Record) :
    (b.removeOne stored r).Valid := by
  refine ⟨fun t => ?_, fun t p hp => ?_, fun t p hp => ?_⟩
  · by_cases h : b.holds r
    · rw [held_removeOne stored h]
      split_ifs
      · exact (hv.held t).erase r
      · exact hv.held t
    · rw [removeOne_of_not_holds stored h]; exact hv.held t
  · rw [hv.inOrder_removeOne] at hp
    exact hv.typed t p (List.mem_filter.mp hp).1
  · rw [hv.inOrder_removeOne] at hp
    rw [nextPosition_removeOne]
    exact hv.below t p (List.mem_filter.mp hp).1

theorem Valid.remove {b : Buffer} (hv : b.Valid) (rs : List Record) (stored : Bool) :
    (b.remove rs stored).Valid := by
  induction rs generalizing b with
  | nil => exact hv
  | cons r rs ih => exact ih (hv.removeOne stored r)

@[simp] theorem request_remove (b : Buffer) (rs : List Record) (stored : Bool) :
    (b.remove rs stored).request = b.request := by
  induction rs generalizing b with
  | nil => rfl
  | cons r rs ih => exact (ih (b.removeOne stored r)).trans (request_removeOne b stored r)

theorem Valid.contents_removeOne {b : Buffer} (hv : b.Valid) (stored : Bool) (r : Record) :
    (b.removeOne stored r).contents = b.contents.filter fun x => !x.same r := by
  have hside : ∀ t, ((b.removeOne stored r).held t).records =
      (b.held t).records.filter fun x => !x.same r := fun t => by
    unfold Held.records
    rw [hv.inOrder_removeOne, List.filter_map]
    rfl
  unfold contents
  rw [List.filter_append]
  exact congrArg₂ (· ++ ·) (hside .delete) (hside .insert)

/-- **Removal** takes out what is the same as a removed record, and leaves the rest in order. -/
theorem Valid.contents_remove {b : Buffer} (hv : b.Valid) (rs : List Record) (stored : Bool) :
    (b.remove rs stored).contents = b.contents.filter fun x => !rs.any x.same := by
  induction rs generalizing b with
  | nil => exact (List.filter_eq_self.mpr fun x _ => by simp).symm
  | cons r rs ih =>
    have h := ih (hv.removeOne stored r)
    rw [hv.contents_removeOne, List.filter_filter] at h
    refine h.trans (List.filter_congr fun x _ => ?_)
    simp [Bool.and_comm]

/-- **Stored records are counted.** Removing distinct records that are held, as stored, counts each
of them once, by its type. -/
theorem Valid.count_statistics_remove {b : Buffer} (hv : b.Valid) {rs : List Record}
    (hheld : ∀ r ∈ rs, b.holds r) (hdistinct : rs.Pairwise fun x y => ¬ x.same y)
    (t : ChangeType) :
    (b.remove rs true).statistics.count t =
      b.statistics.count t + rs.countP fun r => r.changeType = t := by
  induction rs generalizing b with
  | nil => rfl
  | cons r rs ih =>
    obtain ⟨hr, hrs⟩ := List.pairwise_cons.mp hdistinct
    -- the removal of `r` leaves the other records, as they are not the same
    have hrest : ∀ x ∈ rs, (b.removeOne true r).holds x := fun x hx => by
      obtain ⟨y, hy, hyx⟩ := hv.holds_iff.mp (hheld x (by simp [hx]))
      have hyr : ¬ y.same r := fun hs =>
        hr x hx (Record.same_trans (by rwa [Record.same_comm]) hyx)
      refine (hv.removeOne true r).holds_iff.mpr ⟨y, ?_, hyx⟩
      rw [hv.contents_removeOne, List.mem_filter]
      exact ⟨hy, by simpa using hyr⟩
    have hone := count_statistics_removeOne b true r t
    have h := ih (hv.removeOne true r) hrest hrs
    rw [List.countP_cons]
    refine h.trans ?_
    rw [hone]
    simp only [hheld r (by simp), true_and, decide_eq_true_eq]
    omega

end GraphLedger.Buffer
