import GraphLedger.JsonLd.Node

/-! # Computations that name nodes

While a document is translated, nodes are named: numbers are taken from a supply, and labels get an
IRI at their first occurrence, which they keep. A computation that gives a result is taken apart
into its steps, and each of them leaves a supply and labels that extend those before it.

* `Gives`: a computation gives a result; `gives_pure`, `gives_bind`, `gives_lift`, `gives_append`.
* `Skolem.Extends`: a supply and labels that extend others.
* `gives_nodeIri`: what the IRI of an identifier is. -/

namespace GraphLedger.JsonLd

/-! ### Results -/

/-- A computation that names nodes gives a result, and the supply and labels that are left. -/
def Gives {α : Type} (t : Naming α) (s : Skolem) (a : α) (s' : Skolem) : Prop :=
  t.run.run s = (.ok a, s')

section Gives
variable {α β : Type} {s s' : Skolem}

theorem gives_pure {a b : α} : Gives (pure a) s b s' ↔ b = a ∧ s' = s := by
  unfold Gives
  constructor
  · intro h
    cases h
    exact ⟨rfl, rfl⟩
  · rintro ⟨rfl, rfl⟩
    rfl

theorem gives_bind {t : Naming α} {f : α → Naming β} {b : β} :
    Gives (t >>= f) s b s' ↔ ∃ a s₁, Gives t s a s₁ ∧ Gives (f a) s₁ b s' := by
  unfold Gives
  simp only [ExceptT.run_bind, StateT.run_bind]
  rcases t.run.run s with ⟨e | a, s₁⟩
  · constructor
    · intro h; cases h
    · rintro ⟨a, s₁, h, -⟩; cases h
  · constructor
    · intro h; exact ⟨a, s₁, rfl, h⟩
    · rintro ⟨a, s₁, h, h'⟩
      cases h
      exact h'

theorem liftM_ok (a : α) : (liftM (Except.ok a : Except Fault α) : Naming α) = pure a := rfl

theorem gives_lift {x : Except Fault α} {a : α} :
    Gives (liftM x : Naming α) s a s' ↔ x = .ok a ∧ s' = s := by
  constructor
  · intro h
    cases x with
    | error e => cases h
    | ok b => cases h; exact ⟨rfl, rfl⟩
  · rintro ⟨rfl, rfl⟩
    rfl

theorem not_gives_throw {e : Fault} {a : α} : ¬ Gives (throw e) s a s' := fun h => by cases h

theorem gives_append {t u : Naming (List Statement)} {sts : List Statement} :
    Gives (do let first ← t; let rest ← u; return first ++ rest) s sts s' ↔
      ∃ first s₁ rest, Gives t s first s₁ ∧ Gives u s₁ rest s' ∧ sts = first ++ rest := by
  simp only [gives_bind, gives_pure]
  constructor
  · rintro ⟨first, s₁, ht, rest, s₂, hu, rfl, rfl⟩
    exact ⟨first, s₁, rest, ht, hu, rfl⟩
  · rintro ⟨first, s₁, rest, ht, hu, rfl⟩
    exact ⟨first, s₁, ht, rest, s', hu, rfl, rfl⟩

theorem gives_mint {iri : String} :
    Gives mint s iri s' ↔ iri = Skolem.minted s.next ∧ s' = { s with next := s.next + 1 } := by
  constructor
  · intro h
    cases h
    exact ⟨rfl, rfl⟩
  · rintro ⟨rfl, rfl⟩
    rfl

end Gives

/-! ### What has a name keeps it -/

/-- The IRI of an identifier, if it is no label or a label that has one. -/
def Skolem.iriOf? (s : Skolem) (c : Context) (id : String) : Option String :=
  match id.toList with
  | '_' :: ':' :: label => s.labels.lookup (String.ofList label)
  | _ => some (c.expandReference id)

/-- Later supplies and labels: numbers go on, and labels keep their IRIs. -/
structure Skolem.Extends (s s' : Skolem) : Prop where
  next : s.next ≤ s'.next
  labels : ∀ label iri, s.labels.lookup label = some iri → s'.labels.lookup label = some iri

namespace Skolem.Extends
variable {s s' s'' : Skolem}

theorem refl (s : Skolem) : s.Extends s := ⟨Nat.le_refl _, fun _ _ h => h⟩

theorem trans (h : s.Extends s') (h' : s'.Extends s'') : s.Extends s'' :=
  ⟨Nat.le_trans h.next h'.next, fun label iri hl => h'.labels label iri (h.labels label iri hl)⟩

theorem iriOf? (h : s.Extends s') {c : Context} {id iri : String}
    (hi : s.iriOf? c id = some iri) : s'.iriOf? c id = some iri := by
  unfold Skolem.iriOf? at hi ⊢
  split at hi
  · exact h.labels _ _ hi
  · exact hi

end Skolem.Extends

section Named
variable {s s' : Skolem} {iri : String}

theorem gives_labelled {label : String} (h : Gives (labelled label) s iri s') :
    s.Extends s' ∧ s'.labels.lookup label = some iri := by
  unfold labelled at h
  obtain ⟨s₀, s₁, hget, h⟩ := gives_bind.mp h
  have hs : s₀ = s ∧ s₁ = s := by
    cases hget
    exact ⟨rfl, rfl⟩
  rw [hs.1, hs.2] at h
  cases hl : s.labels.lookup label with
  | some old =>
    rw [hl] at h
    obtain ⟨rfl, rfl⟩ := gives_pure.mp h
    exact ⟨.refl _, hl⟩
  | none =>
    rw [hl] at h
    obtain ⟨new, s₁, hmint, h⟩ := gives_bind.mp h
    obtain ⟨rfl, rfl⟩ := gives_mint.mp hmint
    cases h
    refine ⟨⟨Nat.le_succ _, fun other old hold => ?_⟩, List.lookup_cons_self ..⟩
    have hne : (other == label) = false := by
      rw [beq_eq_false_iff_ne]
      rintro rfl
      rw [hl] at hold
      cases hold
    rw [List.lookup_cons, hne]
    exact hold

theorem nodeIri_of_label (c : Context) {id : String} {label : List Char}
    (h : id.toList = '_' :: ':' :: label) : nodeIri c id = labelled (String.ofList label) := by
  rw [nodeIri, h]
  rfl

theorem nodeIri_of_not_label (c : Context) {id : String}
    (h : ¬ ∃ label, id.toList = '_' :: ':' :: label) :
    nodeIri c id = pure (c.expandReference id) := by
  unfold nodeIri
  split
  · exact absurd ⟨_, ‹_›⟩ h
  · rfl

theorem gives_nodeIri {c : Context} {id : String} (h : Gives (nodeIri c id) s iri s') :
    s.Extends s' ∧ s'.iriOf? c id = some iri := by
  by_cases hlabel : ∃ label, id.toList = '_' :: ':' :: label
  · obtain ⟨label, hid⟩ := hlabel
    have hiri : s'.iriOf? c id = s'.labels.lookup (String.ofList label) := by
      rw [Skolem.iriOf?, hid]
      rfl
    rw [nodeIri_of_label c hid] at h
    rw [hiri]
    exact gives_labelled h
  · have hiri : s'.iriOf? c id = some (c.expandReference id) := by
      unfold Skolem.iriOf?
      split
      · exact absurd ⟨_, ‹_›⟩ hlabel
      · rfl
    rw [nodeIri_of_not_label c hlabel] at h
    obtain ⟨rfl, rfl⟩ := gives_pure.mp h
    exact ⟨.refl _, hiri⟩

end Named

end GraphLedger.JsonLd
