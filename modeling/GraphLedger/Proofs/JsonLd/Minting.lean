import GraphLedger.Proofs.JsonLd.Minted
import GraphLedger.Proofs.JsonLd.Numbering
import Mathlib.Algebra.Group.End
import Mathlib.Data.Countable.Basic
import Mathlib.Logic.Equiv.Basic
import Mathlib.Logic.Equiv.List

/-! # Names that are minted

Every numbering of blank nodes can be continued to names for all of them, by numbers that the supply
has not given yet. Two runs that follow the same drafts then differ by their names only; and as no
name is given twice, one permutation of IRIs takes the names of the one run to those of the other.
It moves no other IRIs, so that it leaves the IRIs of the input alone if none of them was minted by
a run.

* `Minting`: names for blank nodes, each minted, and no two the same; `Within.exists_minting`.
* `exists_perm`: a permutation that takes some distinct elements to others and moves only these.
* `Draft.statement_permuted`: what a permutation of IRIs does to the statement of a draft.
* `numbered_of_same`: what occurs in a result has a number.
* `exists_renaming`: two runs with the same drafts differ by a permutation of minted IRIs. -/

namespace GraphLedger

/-- A statement with the IRIs of its nodes and of its graph renamed. -/
def Statement.renameNodes (π : String → String) (st : Statement) : Statement :=
  { st with
    subject := π st.subject
    object := match st.object with
      | .iri iri => .iri (π iri)
      | .literal value => .literal value
    graph := π st.graph }

namespace JsonLd

/-! ### Names for all blank nodes -/

/-- **Names for blank nodes**: they are minted for numbers of a supply, no two the same. -/
structure Minting (κ : Type) (low : Nat) where
  number : κ → Nat
  injective : Function.Injective number
  low_le : ∀ x, low ≤ number x

namespace Minting
variable {κ : Type} {low : Nat} (m : Minting κ low)

/-- The IRI of a blank node. -/
def iri (x : κ) : String := Skolem.minted (m.number x)

/-- **Two blank nodes have one name** only if they are the same. -/
theorem iri_injective : Function.Injective m.iri :=
  fun _ _ h => m.injective (Skolem.minted_injective h)

end Minting

/-- The IRIs that are minted for the numbers from one on and below another. -/
def mintedIn (low high : Nat) : Set String :=
  {iri | ∃ n, low ≤ n ∧ n < high ∧ iri = Skolem.minted n}

theorem Skolem.not_minted {iri : String} (h : ¬ Vocabulary.skolemStart.toList <+: iri.toList) :
    iri ∉ Set.range minted := by
  rintro ⟨n, rfl⟩
  rw [toList_minted] at h
  exact h (List.prefix_append _ _)

theorem not_mem_mintedIn {iri : String} (h : ¬ Vocabulary.skolemStart.toList <+: iri.toList)
    (low high : Nat) : iri ∉ mintedIn low high := by
  rintro ⟨n, -, -, rfl⟩
  exact Skolem.not_minted h ⟨n, rfl⟩

theorem countable_string : Countable String :=
  have : Countable Char :=
    Function.Injective.countable (f := Char.toNat) fun _ _ h => Char.toNat_inj.mp h
  Function.Injective.countable (f := String.toList) fun _ _ h => String.toList_inj.mp h

instance : Countable Blank := by
  have := countable_string
  let code : Blank → String ⊕ List Nat
    | .label l => .inl l
    | .unnamed path => .inr path
  refine Function.Injective.countable (f := code) fun b b' h => ?_
  cases b <;> cases b' <;> cases h <;> rfl

section Numbering
variable {κ : Type} {low next : Nat} {N : Numbering κ}

/-- **A numbering can be continued** to names for all blank nodes: what has no number gets one that
the supply has not given. -/
theorem Within.exists_minting [Countable κ] (h : Within low N next) :
    ∃ m : Minting κ low, ∀ x n, N x = some n → m.number x = n := by
  obtain ⟨code, hcode⟩ := Countable.exists_injective_nat κ
  have hstart := h.start
  have hnumber : ∀ x n, N x = some n → (N x).getD (next + code x) = n :=
    fun x n hx => by rw [hx]; rfl
  have hother : ∀ x, N x = none → (N x).getD (next + code x) = next + code x :=
    fun x hx => by rw [hx]; rfl
  refine ⟨⟨fun x => (N x).getD (next + code x), fun x y hxy => ?_, fun x => ?_⟩, hnumber⟩
  · dsimp only at hxy
    cases hx : N x with
    | some n =>
      have hlt := (h.bounds x n hx).2
      rw [hnumber x n hx] at hxy
      cases hy : N y with
      | some k =>
        rw [hnumber y k hy] at hxy
        exact h.injective x y n hx (hxy ▸ hy)
      | none =>
        rw [hother y hy] at hxy
        omega
    | none =>
      rw [hother x hx] at hxy
      cases hy : N y with
      | some k =>
        have hlt := (h.bounds y k hy).2
        rw [hnumber y k hy] at hxy
        omega
      | none =>
        rw [hother y hy] at hxy
        exact hcode (by omega)
  · cases hx : N x with
    | some n => exact (h.bounds x n hx).1
    | none => exact Nat.le_add_right_of_le hstart

theorem Minting.agrees {m : Minting κ low} (h : ∀ x n, N x = some n → m.number x = n) :
    Agrees m.iri N := fun x n hx => congrArg Skolem.minted (h x n hx)

theorem Within.name_mem (h : Within low N next) {m : Minting κ low}
    (hm : ∀ x n, N x = some n → m.number x = n) {x : κ} {n : Nat} (hx : N x = some n) :
    m.iri x ∈ mintedIn low next := by
  obtain ⟨hle, hlt⟩ := h.bounds x n hx
  exact ⟨n, hle, hlt, Minting.agrees hm x n hx⟩

end Numbering

/-! ### Permutations of IRIs -/

/-- **A permutation that extends** a one to one correspondence of some elements moves only these. -/
theorem exists_perm {κ : Type} {f g : κ → String} (hf : Function.Injective f)
    (hg : Function.Injective g) (xs : List κ) :
    ∃ π : Equiv.Perm String, (∀ x ∈ xs, π (f x) = g x) ∧
      ∀ a, (∀ x ∈ xs, a ≠ f x ∧ a ≠ g x) → π a = a := by
  induction xs with
  | nil =>
    refine ⟨1, fun x hx => ?_, fun a _ => rfl⟩
    cases hx
  | cons x xs ih =>
    obtain ⟨π, hπ, hfix⟩ := ih
    by_cases hx : x ∈ xs
    · exact ⟨π, List.forall_mem_cons.mpr ⟨hπ x hx, hπ⟩,
        fun a ha => hfix a fun y hy => ha y (List.mem_cons_of_mem x hy)⟩
    have hne : ∀ y ∈ xs, y ≠ x := fun y hy h => hx (h ▸ hy)
    refine ⟨Equiv.swap (π (f x)) (g x) * π, List.forall_mem_cons.mpr ⟨?_, fun y hy => ?_⟩,
      fun a ha => ?_⟩
    · rw [Equiv.Perm.mul_apply, Equiv.swap_apply_left]
    · -- the others are where they should be, and stay there
      have hπy : g y ≠ π (f x) := by
        rw [← hπ y hy]
        exact fun h => hne y hy (hf (π.injective h))
      rw [Equiv.Perm.mul_apply, hπ y hy,
        Equiv.swap_apply_of_ne_of_ne hπy fun h => hne y hy (hg h)]
    · obtain ⟨⟨hfx, hgx⟩, hrest⟩ := List.forall_mem_cons.mp ha
      have hπa := hfix a hrest
      have hπx : a ≠ π (f x) := by
        intro h
        exact hfx (π.injective (hπa.trans h))
      rw [Equiv.Perm.mul_apply, hπa, Equiv.swap_apply_of_ne_of_ne hπx hgx]

/-! ### What occurs in drafts -/

/-- What stands for nodes in a draft. -/
def Draft.idents (d : Draft) : List Ident :=
  d.subject :: d.graph :: match d.object with
    | .node id => [id]
    | .literal _ => []

/-- The IRIs of the input that nodes have in a draft. -/
def Draft.givenIris (d : Draft) : List String :=
  d.idents.filterMap fun
    | .given iri => some iri
    | .blank _ => none

/-- The blank nodes that occur in a draft. -/
def Draft.blanks (d : Draft) : List Blank :=
  d.idents.filterMap fun
    | .given _ => none
    | .blank b => some b

theorem Draft.mem_givenIris {d : Draft} {iri : String} (h : .given iri ∈ d.idents) :
    iri ∈ d.givenIris := List.mem_filterMap.mpr ⟨_, h, rfl⟩

theorem Draft.mem_blanks_iff {d : Draft} {b : Blank} : b ∈ d.blanks ↔ .blank b ∈ d.idents := by
  constructor
  · intro h
    obtain ⟨id, hid, hb⟩ := List.mem_filterMap.mp h
    cases id with
    | given iri => cases hb
    | blank b' =>
      cases hb
      exact hid
  · exact fun h => List.mem_filterMap.mpr ⟨_, h, rfl⟩

section Statement
variable {α β : Blank → String} {d : Draft}

/-- **A permutation of IRIs** that takes the names of blank nodes to other names, and leaves those
of the input alone, takes the statement of a draft to that with the other names. -/
theorem Draft.statement_permuted {π : String → String}
    (h : ∀ id ∈ d.idents, id.iri β = π (id.iri α)) :
    d.statement β = (d.statement α).renameNodes π := by
  have hsubject := h d.subject (by simp [idents])
  have hgraph := h d.graph (by simp [idents])
  have hobject : d.object.object β = ((d.statement α).renameNodes π).object := by
    cases hd : d.object with
    | literal value => simp [statement, Statement.renameNodes, hd, DraftObject.object]
    | node id =>
      have hid := h id (by simp [idents, hd])
      simp [statement, Statement.renameNodes, hd, DraftObject.object, hid]
  unfold Draft.statement Statement.renameNodes at hobject ⊢
  rw [hsubject, hgraph, hobject]

theorem Draft.iri_eq_of_statement_eq (h : d.statement α = d.statement β) :
    ∀ id ∈ d.idents, id.iri α = id.iri β := by
  obtain ⟨hsubject, -, hobject, hgraph, -⟩ := Statement.mk.inj h
  unfold idents
  refine List.forall_mem_cons.mpr ⟨hsubject, List.forall_mem_cons.mpr ⟨hgraph, ?_⟩⟩
  cases hd : d.object with
  | literal value => exact fun _ h => nomatch h
  | node id =>
    rw [hd] at hobject
    rw [List.forall_mem_singleton]
    exact Object.iri.inj hobject

/-- **What occurs in statements has a number.** If drafts have the same statements under all names
that agree with a numbering, this gives numbers to all blank nodes in the drafts. -/
theorem numbered_of_same {N : Numbering Blank} {ds : List Draft}
    {sts : List Statement}
    (h : ∀ ν, Agrees ν N → sts = Draft.statements ν ds) {d : Draft} (hd : d ∈ ds)
    {b : Blank} (hb : b ∈ d.blanks) : ∃ n, N b = some n := by
  classical
  by_contra hnone
  obtain ⟨ν, hν⟩ := exists_agrees N
  -- other names for a node without a number agree as well
  have hother : Agrees (Function.update ν b (ν b ++ "x")) N := by
    intro x n hx
    have hne : x ≠ b := by
      rintro rfl
      exact hnone ⟨n, hx⟩
    rw [Function.update_of_ne hne]
    exact hν x n hx
  have hsame := List.map_inj_left.mp ((h ν hν).symm.trans (h _ hother)) d hd
  have hiri := Draft.iri_eq_of_statement_eq hsame _ (Draft.mem_blanks_iff.mp hb)
  have hlength := congrArg String.length (show ν b = ν b ++ "x" from
    hiri.trans (Function.update_self b _ ν))
  rw [String.length_append] at hlength
  exact absurd hlength (by simp)

end Statement

/-- **Two runs with the same drafts** differ by a permutation of IRIs that moves only what one of
them has minted, if no IRI of the input is among that. The blank nodes of drafts are known by keys,
which may tell labels of several translations apart. -/
theorem exists_renaming {κ : Type} {α β : κ → String} (hα : Function.Injective α)
    (hβ : Function.Injective β) {minted : Set String} (ds : List ((Blank → κ) × Draft))
    (hblank : ∀ q ∈ ds, ∀ b ∈ q.2.blanks, α (q.1 b) ∈ minted ∧ β (q.1 b) ∈ minted)
    (hgiven : ∀ q ∈ ds, ∀ iri ∈ q.2.givenIris, iri ∉ minted) :
    ∃ π : Equiv.Perm String, (∀ a, π a ≠ a → a ∈ minted) ∧
      ∀ q ∈ ds, q.2.statement (fun b => β (q.1 b)) =
        (q.2.statement fun b => α (q.1 b)).renameNodes π := by
  obtain ⟨π, hπ, hfix⟩ := exists_perm hα hβ (ds.flatMap fun q => q.2.blanks.map q.1)
  have hmoved : ∀ a, π a ≠ a → a ∈ minted := by
    intro a ha
    by_contra hnot
    refine ha (hfix a fun x hx => ?_)
    obtain ⟨q, hq, hx⟩ := List.mem_flatMap.mp hx
    obtain ⟨b, hb, rfl⟩ := List.mem_map.mp hx
    obtain ⟨hfirst, hsecond⟩ := hblank q hq b hb
    exact ⟨fun h => hnot (h ▸ hfirst), fun h => hnot (h ▸ hsecond)⟩
  refine ⟨π, hmoved, fun q hq => Draft.statement_permuted fun id hid => ?_⟩
  cases id with
  | given iri =>
    have hnot := hgiven q hq iri (Draft.mem_givenIris hid)
    exact (not_not.mp fun h => hnot (hmoved iri h)).symm
  | blank b =>
    have hb := Draft.mem_blanks_iff.mpr hid
    exact (hπ _ (List.mem_flatMap.mpr ⟨q, hq, List.mem_map_of_mem hb⟩)).symm

end JsonLd

end GraphLedger
