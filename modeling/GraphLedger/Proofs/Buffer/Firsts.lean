import GraphLedger.Proofs.Buffer.Roll
import Mathlib.Data.List.Induction
import Mathlib.Data.List.Lemmas

/-! # The first of each

A buffer does not add a record that it holds. So if records are added to a buffer that is empty, it
holds the first of each afterwards, in the order in which they come, and their positions are numbers
in a row. For statements to delete that come before statements to insert these are the first of each
kind, and all that is deleted stands before all that is inserted.

* `eraseDups_concat`, `eraseDups_map`, `eraseDups_append_of_disjoint`: the first of each element.
* `Roll.add_of_empty`: what is on an empty roll after an addition.
* `Buffer.Tracks.add_changes`: what is in an empty buffer after statements are added.
* `Buffer.deletes_before_inserts`: positions in a row, deletions first. -/

namespace GraphLedger

/-! ### The first of each element -/

section Firsts
variable {α β : Type} [BEq α] [LawfulBEq α] [BEq β] [LawfulBEq β]

theorem eraseDups_concat (as : List α) (a : α) :
    (as ++ [a]).eraseDups = as.eraseDups ++ if a ∈ as then [] else [a] := by
  rw [List.eraseDups_append, List.cons_removeAll, List.nil_removeAll]
  by_cases h : a ∈ as
  · simp [h]
  · simp [h, List.eraseDups_cons]

theorem eraseDups_map {f : α → β} (hf : Function.Injective f) (as : List α) :
    (as.map f).eraseDups = as.eraseDups.map f := by
  induction as using List.reverseRecOn with
  | nil => rfl
  | append_singleton as a ih =>
    have hmem : f a ∈ as.map f ↔ a ∈ as := List.mem_map_of_injective hf
    rw [List.map_append, List.map_singleton, eraseDups_concat, eraseDups_concat, ih,
      List.map_append]
    by_cases h : a ∈ as
    · rw [if_pos (hmem.mpr h), if_pos h]
      rfl
    · rw [if_neg (mt hmem.mp h), if_neg h]
      rfl

theorem eraseDups_append_of_disjoint {as bs : List α} (h : as.Disjoint bs) :
    (as ++ bs).eraseDups = as.eraseDups ++ bs.eraseDups := by
  have hkept : bs.removeAll as = bs := by
    refine List.filter_eq_self.mpr fun b hb => ?_
    simpa using fun ha => h ha hb
  rw [List.eraseDups_append, hkept]

end Firsts

/-! ### Rolls -/

namespace Roll

theorem add_concat (l : Roll) (rs : List Record) (r : Record) :
    l.add (rs ++ [r]) = (l.add rs).addOne r :=
  List.foldl_concat ..

/-- **An empty roll** to which records are added, of which the same ones are equal, has the first of
each, with numbers in a row. -/
theorem add_of_empty {l : Roll} (hempty : l.entries = []) (rs : List Record)
    (hsame : ∀ x ∈ rs, ∀ y ∈ rs, x.same y → x = y) :
    (l.add rs).records = rs.eraseDups ∧
      (l.add rs).entries.map Prod.fst = List.range' l.additions rs.eraseDups.length ∧
      (l.add rs).additions = l.additions + rs.eraseDups.length := by
  induction rs using List.reverseRecOn with
  | nil =>
    have hrecords : l.records = [] := by rw [records, hempty]; rfl
    exact ⟨hrecords, by rw [add, List.foldl_nil, hempty]; rfl, rfl⟩
  | append_singleton rs r ih =>
    obtain ⟨hrecords, hnumbers, hadditions⟩ := ih fun x hx y hy =>
      hsame x (List.mem_append_left _ hx) y (List.mem_append_left _ hy)
    have hhas : (l.add rs).has r ↔ r ∈ rs := by
      have hany : (l.add rs).has r = (l.add rs).records.any (·.same r) := by
        rw [records, List.any_map]
        rfl
      rw [hany, hrecords, List.any_eq_true]
      constructor
      · rintro ⟨x, hx, hs⟩
        have hmem := List.mem_eraseDups.mp hx
        rwa [← hsame x (List.mem_append_left _ hmem) r (by simp) hs]
      · exact fun hr => ⟨r, List.mem_eraseDups.mpr hr, Record.same_refl r⟩
    rw [add_concat, addOne, eraseDups_concat]
    by_cases hr : r ∈ rs
    · rw [if_pos (hhas.mpr hr), if_pos hr, List.append_nil]
      exact ⟨hrecords, hnumbers, hadditions⟩
    · rw [if_neg (mt hhas.mp hr), if_neg hr, List.length_append, List.length_singleton,
        List.range'_concat, Nat.one_mul, ← hnumbers, ← hadditions]
      refine ⟨?_, ?_, by rw [hadditions, Nat.add_assoc]⟩
      · rw [← hrecords, records, records, List.map_append]
        rfl
      · rw [List.map_append]
        rfl

theorem stored_add (l : Roll) (rs : List Record) : (l.add rs).stored = l.stored := by
  induction rs using List.reverseRecOn with
  | nil => rfl
  | append_singleton rs r ih =>
    rw [add_concat, addOne]
    split
    · exact ih
    · exact ih

end Roll

/-! ### Buffers -/

namespace Buffer

theorem record_injective (b : Buffer) (t : ChangeType) : Function.Injective (b.record t) :=
  fun _ _ h => congrArg Record.statement h

/-- The records of statements to delete, and then of statements to insert. -/
def changes (b : Buffer) (deletes inserts : List Statement) : List Record :=
  deletes.map (b.record .delete) ++ inserts.map (b.record .insert)

theorem eq_of_same_changes {b : Buffer} {deletes inserts : List Statement} {x y : Record}
    (hx : x ∈ b.changes deletes inserts) (hy : y ∈ b.changes deletes inserts)
    (h : x.same y = true) : x = y := by
  have hform : ∀ z ∈ b.changes deletes inserts, z = b.record z.changeType z.statement := by
    intro z hz
    rcases List.mem_append.mp hz with hz | hz <;>
      · obtain ⟨st, -, rfl⟩ := List.mem_map.mp hz
        rfl
  obtain ⟨-, htype, hstatement⟩ := Record.same_iff.mp h
  rw [hform x hx, hform y hy, htype, hstatement]

theorem eraseDups_changes (b : Buffer) (deletes inserts : List Statement) :
    (b.changes deletes inserts).eraseDups = b.changes deletes.eraseDups inserts.eraseDups := by
  have hdisjoint : (deletes.map (b.record .delete)).Disjoint (inserts.map (b.record .insert)) := by
    intro x hx hx'
    obtain ⟨st, -, rfl⟩ := List.mem_map.mp hx
    obtain ⟨st', -, heq⟩ := List.mem_map.mp hx'
    cases congrArg Record.changeType heq
  rw [changes, eraseDups_append_of_disjoint hdisjoint, eraseDups_map (b.record_injective _),
    eraseDups_map (b.record_injective _), changes]

theorem filter_changes (b : Buffer) (deletes inserts : List Statement) :
    ((b.changes deletes inserts).filter fun r => r.changeType = .delete) =
        deletes.map (b.record .delete) ∧
      ((b.changes deletes inserts).filter fun r => r.changeType = .insert) =
        inserts.map (b.record .insert) := by
  have hkept : ∀ (t : ChangeType) (sts : List Statement),
      (sts.map (b.record t)).filter (fun r => r.changeType = t) = sts.map (b.record t) := by
    intro t sts
    refine List.filter_eq_self.mpr fun r hr => ?_
    obtain ⟨st, -, rfl⟩ := List.mem_map.mp hr
    exact decide_eq_true rfl
  have hdropped : ∀ (t t' : ChangeType) (sts : List Statement), t' ≠ t →
      (sts.map (b.record t')).filter (fun r => r.changeType = t) = [] := by
    intro t t' sts hne
    refine List.filter_eq_nil_iff.mpr fun r hr => ?_
    obtain ⟨st, -, rfl⟩ := List.mem_map.mp hr
    exact fun h => hne (of_decide_eq_true h)
  constructor
  · rw [changes, List.filter_append, hkept, hdropped _ _ _ (by decide), List.append_nil]
  · rw [changes, List.filter_append, hkept, hdropped _ _ _ (by decide), List.nil_append]

/-- **What is in an empty buffer** after statements to delete and statements to insert are added:
the first of each, at positions in a row, deletions first; and nothing is counted. -/
theorem Tracks.add_changes {b : Buffer} {l : Roll} (h : b.Tracks l) (hempty : b.isEmpty = true)
    (deletes inserts : List Statement) :
    let b' := b.add (b.changes deletes inserts)
    b'.deletes.records = deletes.eraseDups.map (b.record .delete) ∧
      b'.inserts.records = inserts.eraseDups.map (b.record .insert) ∧
      b'.contents.map b'.position? =
        (List.range' b.nextPosition b'.contents.length).map some ∧
      b'.statistics = b.statistics := by
  have hentries : l.entries = [] := by
    rw [isEmpty, h.size_eq] at hempty
    exact List.length_eq_zero_iff.mp (eq_of_beq hempty)
  intro b'
  have h' : b'.Tracks (l.add (b.changes deletes inserts)) := (h.add _).1
  obtain ⟨hrecords, hnumbers, -⟩ := Roll.add_of_empty hentries (b.changes deletes inserts)
    fun x hx y hy => eq_of_same_changes hx hy
  rw [eraseDups_changes] at hrecords hnumbers
  obtain ⟨hdeletes, hinserts⟩ := b.filter_changes deletes.eraseDups inserts.eraseDups
  have hd : b'.deletes.records = deletes.eraseDups.map (b.record .delete) := by
    rw [← hdeletes, ← hrecords]
    exact h'.records_held .delete
  have hi : b'.inserts.records = inserts.eraseDups.map (b.record .insert) := by
    rw [← hinserts, ← hrecords]
    exact h'.records_held .insert
  have hcontents : b'.contents = b.changes deletes.eraseDups inserts.eraseDups := by
    rw [contents, hd, hi, changes]
  refine ⟨hd, hi, ?_, ?_⟩
  · rw [hcontents, ← hrecords, h'.positions, hnumbers, ← hrecords, h.next]
  · rw [h'.stored, Roll.stored_add, h.stored]

theorem deletes_before_inserts {b : Buffer} {n : Nat}
    (h : b.contents.map b.position? = (List.range' n b.contents.length).map some) :
    ∀ x ∈ b.deletes.records, ∀ y ∈ b.inserts.records, ∃ m n,
      b.position? x = some m ∧ b.position? y = some n ∧ m < n := by
  have hsorted : (b.contents.map b.position?).Pairwise fun p q =>
      ∃ m n, p = some m ∧ q = some n ∧ m < n := by
    rw [h, List.pairwise_map]
    exact (List.pairwise_lt_range' 1).imp fun hlt => ⟨_, _, rfl, rfl, hlt⟩
  rw [List.pairwise_map, contents, List.pairwise_append] at hsorted
  exact hsorted.2.2

end Buffer

end GraphLedger
