import GraphLedger.Buffer
import Mathlib.Data.List.Pairwise
import Mathlib.Tactic.Common

/-! # Held records: in order, and by record

The records of a type are kept twice: with their positions in the order of these, and each with its
position so that it can be found. A `Held` is *valid* if positions increase, both sides hold the
same pairs, and no two of its records are the same; the time of a record does not count.

* `Valid.position?_eq_some_iff`: what is looked up by record is what is there in order.
* `inOrder_insert`, `Valid.insert`: a record that is not held, with a position above all others,
  goes to the end.
* `Valid.inOrder_erase`, `Valid.erase`: erasing a record leaves all others where they are. -/

namespace GraphLedger.Held

/-- Both sides of a `Held` agree, and no record is held twice. -/
structure Valid (h : Held) : Prop where
  sorted : h.inOrder.Pairwise fun p q => p.1 < q.1
  inverse : ∀ n r, (r, n) ∈ h.positions ↔ (n, r) ∈ h.inOrder
  distinct : h.inOrder.Pairwise fun p q => ¬ p.2.same q.2

theorem valid_empty : empty.Valid := ⟨.nil, fun _ _ => by simp [empty], .nil⟩

/-! ### Looking up -/

section Lookup
variable {h : Held} (hv : h.Valid)
include hv

theorem Valid.eq_of_same {p q : Nat × Record} (hp : p ∈ h.inOrder) (hq : q ∈ h.inOrder)
    (hs : p.2.same q.2) : p = q := by
  by_contra hne
  have hsymm : Std.Symm fun p q : Nat × Record => ¬ p.2.same q.2 :=
    ⟨fun p q hpq => by rwa [Record.same_comm]⟩
  exact hv.distinct.forall hp hq hne hs

theorem Valid.eq_of_position {p q : Nat × Record} (hp : p ∈ h.inOrder) (hq : q ∈ h.inOrder)
    (he : p.1 = q.1) : p = q := by
  by_contra hne
  have hsymm : Std.Symm fun p q : Nat × Record => p.1 ≠ q.1 := ⟨fun _ _ => Ne.symm⟩
  exact (hv.sorted.imp fun h => Nat.ne_of_lt h).forall hp hq hne he

/-- **The position of a record** is that of the held record that is the same. -/
theorem Valid.position?_eq_some_iff {r : Record} {n : Nat} :
    h.position? r = some n ↔ ∃ x, (n, x) ∈ h.inOrder ∧ x.same r := by
  unfold position?
  rw [Option.map_eq_some_iff]
  constructor
  · rintro ⟨⟨x, m⟩, hf, rfl⟩
    exact ⟨x, (hv.inverse m x).mp (List.mem_of_find?_eq_some hf), by simpa using List.find?_some hf⟩
  · rintro ⟨x, hx, hs⟩
    have hsome : (h.positions.find? fun p => p.1.same r).isSome :=
      List.find?_isSome.mpr ⟨(x, n), (hv.inverse n x).mpr hx, hs⟩
    obtain ⟨⟨y, m⟩, hf⟩ := Option.isSome_iff_exists.mp hsome
    have hy : (m, y) ∈ h.inOrder := (hv.inverse m y).mp (List.mem_of_find?_eq_some hf)
    have hys : y.same r := by simpa using List.find?_some hf
    have he : (m, y) = (n, x) :=
      hv.eq_of_same hy hx (Record.same_trans hys (by rwa [Record.same_comm]))
    exact ⟨(y, m), hf, congrArg Prod.fst he⟩

theorem Valid.has_iff {r : Record} : h.has r ↔ ∃ p ∈ h.inOrder, p.2.same r := by
  unfold has
  rw [Option.isSome_iff_exists]
  constructor
  · rintro ⟨n, hn⟩
    obtain ⟨x, hx, hs⟩ := hv.position?_eq_some_iff.mp hn
    exact ⟨(n, x), hx, hs⟩
  · rintro ⟨⟨n, x⟩, hx, hs⟩
    exact ⟨n, hv.position?_eq_some_iff.mpr ⟨x, hx, hs⟩⟩

theorem Valid.not_has_iff {r : Record} : ¬ h.has r ↔ ∀ p ∈ h.inOrder, ¬ p.2.same r := by
  rw [hv.has_iff]; simp

end Lookup

/-! ### Inserting -/

theorem place_of_lt {n : Nat} (r : Record) : ∀ l : List (Nat × Record), (∀ p ∈ l, p.1 < n) →
    place n r l = l ++ [(n, r)]
  | [], _ => rfl
  | p :: l, hl => by
    have hp : p.1 < n := hl p (by simp)
    have ih := place_of_lt r l fun q hq => hl q (by simp [hq])
    rw [place, if_pos hp, ih, List.cons_append]

theorem inOrder_insert {h : Held} {n : Nat} (r : Record) (hn : ∀ p ∈ h.inOrder, p.1 < n) :
    (h.insert n r).inOrder = h.inOrder ++ [(n, r)] := place_of_lt r _ hn

/-- **Insertion at the end** keeps a `Held` valid. -/
theorem Valid.insert {h : Held} (hv : h.Valid) {n : Nat} {r : Record}
    (hn : ∀ p ∈ h.inOrder, p.1 < n) (hr : ¬ h.has r) : (h.insert n r).Valid := by
  have ho := inOrder_insert r hn
  refine ⟨?_, fun m x => ?_, ?_⟩
  · rw [ho, List.pairwise_append]
    refine ⟨hv.sorted, List.pairwise_singleton _ _, fun p hp q hq => ?_⟩
    rw [List.mem_singleton] at hq
    subst hq
    exact hn p hp
  · rw [ho]
    simp only [Held.insert, List.mem_cons, List.mem_append, List.not_mem_nil, or_false,
      Prod.mk.injEq, hv.inverse]
    exact ⟨fun h => h.elim (fun h => Or.inr ⟨h.2, h.1⟩) Or.inl,
      fun h => h.elim Or.inr fun h => Or.inl ⟨h.2, h.1⟩⟩
  · rw [ho, List.pairwise_append]
    refine ⟨hv.distinct, List.pairwise_singleton _ _, fun p hp q hq => ?_⟩
    rw [List.mem_singleton] at hq
    subst hq
    exact hv.not_has_iff.mp hr p hp

/-! ### Erasing -/

/-- **Erasing** takes out the held record that is the same, and no other. -/
theorem Valid.inOrder_erase {h : Held} (hv : h.Valid) (r : Record) :
    (h.erase r).inOrder = h.inOrder.filter fun p => !p.2.same r := by
  unfold Held.erase
  cases hp : h.position? r with
  | none =>
    have hno : ¬ h.has r := by simp [has, hp]
    exact (List.filter_eq_self.mpr fun p hp => by simpa using hv.not_has_iff.mp hno p hp).symm
  | some n =>
    obtain ⟨x, hx, hs⟩ := hv.position?_eq_some_iff.mp hp
    refine List.filter_congr fun p hp => ?_
    -- positions and records tell the same pairs apart
    have hiff : p.1 = n ↔ p.2.same r := by
      constructor
      · intro he
        rw [hv.eq_of_position hp hx he]; exact hs
      · intro hps
        rw [hv.eq_of_same hp hx (Record.same_trans hps (by rwa [Record.same_comm]))]
    rw [Bool.eq_iff_iff]
    simp [hiff]

theorem Valid.erase {h : Held} (hv : h.Valid) (r : Record) : (h.erase r).Valid := by
  have ho := hv.inOrder_erase r
  refine ⟨by rw [ho]; exact hv.sorted.filter _, fun m x => ?_,
    by rw [ho]; exact hv.distinct.filter _⟩
  rw [ho]
  unfold Held.erase
  cases hp : h.position? r with
  | none =>
    have hno : ¬ h.has r := by simp [has, hp]
    rw [hv.inverse, List.mem_filter]
    exact ⟨fun hm => ⟨hm, by simpa using hv.not_has_iff.mp hno _ hm⟩, And.left⟩
  | some n => simp only [List.mem_filter, hv.inverse]

end GraphLedger.Held
