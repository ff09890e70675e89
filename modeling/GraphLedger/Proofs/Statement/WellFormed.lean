import GraphLedger.Statement
import Mathlib.Tactic.Common

/-! # Statements with absolute IRIs

A statement is *well-formed* if its subject, its predicate, its graph unless that is the default
one, and its object if that is an IRI, are absolute IRIs. An absolute IRI begins with a letter, so
it is no label of a blank node.

* `Iri.isAbsolute_iff`: what the check of an IRI asks for.
* `Statement.invalid?_eq_none_iff`: what the check of a statement asks for.
* `Statement.WellFormed.not_isBlankLabel`: no checked place holds a label. -/

namespace GraphLedger

/-! ### Absolute IRIs -/

section Split
variable {α : Type} [BEq α] [LawfulBEq α] {x : α}

theorem Text.splitAtFirst_eq_some {l before after : List α}
    (h : splitAtFirst x l = some (before, after)) : l = before ++ x :: after := by
  induction l generalizing before with
  | nil => cases h
  | cons y ys ih =>
    rw [splitAtFirst] at h
    split_ifs at h with hy
    · cases h
      rw [eq_of_beq hy]
      rfl
    · obtain ⟨⟨before', after'⟩, hs, he⟩ := Option.map_eq_some_iff.mp h
      cases he
      rw [ih hs]
      rfl

theorem Text.not_mem_of_splitAtFirst {l before after : List α}
    (h : splitAtFirst x l = some (before, after)) : x ∉ before := by
  induction l generalizing before with
  | nil => cases h
  | cons y ys ih =>
    rw [splitAtFirst] at h
    split_ifs at h with hy
    · cases h
      exact List.not_mem_nil
    · obtain ⟨⟨before', after'⟩, hs, he⟩ := Option.map_eq_some_iff.mp h
      cases he
      have hne : x ≠ y := fun he => hy (by simp [he])
      exact fun hmem => (List.mem_cons.mp hmem).elim hne (ih hs)

theorem Text.splitAtFirst_append {before : List α} (h : x ∉ before) (after : List α) :
    splitAtFirst x (before ++ x :: after) = some (before, after) := by
  induction before with
  | nil => simp [splitAtFirst]
  | cons y ys ih =>
    obtain ⟨hy, hys⟩ := not_or.mp (mt List.mem_cons.mpr h)
    have hne : (y == x) = false := by simpa using fun he => hy he.symm
    rw [List.cons_append, splitAtFirst, hne, ih hys]
    rfl

theorem Text.splitAtFirst_eq_none {l : List α} (h : x ∉ l) : splitAtFirst x l = none := by
  induction l with
  | nil => rfl
  | cons y l ih =>
    obtain ⟨hy, hl⟩ := not_or.mp (mt List.mem_cons.mpr h)
    have hne : (y == x) = false := by simpa using fun he => hy he.symm
    rw [splitAtFirst, hne, ih hl]
    rfl

end Split

namespace Iri

theorem splitAtFirst_of_splitScheme? {iri : String} {p : List Char × List Char}
    (h : splitScheme? iri = some p) : Text.splitAtFirst ':' iri.toList = some p := by
  unfold splitScheme? at h
  split at h
  · rename_i hs
    split_ifs at h
    rw [hs, h]
  · cases h

theorem isScheme_cons {c : Char} {cs : List Char} :
    isScheme (c :: cs) = true ↔ c.isAlpha = true ∧ ∀ d ∈ cs, isSchemePart d = true := by
  rw [isScheme, Bool.and_eq_true, List.all_eq_true]

theorem splitScheme?_eq_some_iff {iri : String} {scheme rest : List Char} :
    splitScheme? iri = some (scheme, rest) ↔
      iri.toList = scheme ++ ':' :: rest ∧ isScheme scheme = true := by
  constructor
  · intro h
    have hsplit := splitAtFirst_of_splitScheme? h
    rw [splitScheme?, hsplit] at h
    dsimp only at h
    split_ifs at h with hscheme
    exact ⟨Text.splitAtFirst_eq_some hsplit, hscheme⟩
  · rintro ⟨hiri, hscheme⟩
    -- no colon is part of a scheme, so the first colon is the one behind it
    have hcolon : ':' ∉ scheme := by
      cases scheme with
      | nil => simp
      | cons c cs =>
        obtain ⟨hc, hcs⟩ := isScheme_cons.mp hscheme
        rw [List.mem_cons]
        rintro (rfl | hmem)
        · exact absurd hc (by decide)
        · exact absurd (hcs ':' hmem) (by decide)
    rw [splitScheme?, hiri, Text.splitAtFirst_append hcolon]
    exact if_pos hscheme

/-- An absolute IRI: a letter and other signs of a scheme, a colon, and something behind it, without
blanks. -/
def Absolute (iri : String) : Prop :=
  ∃ (c : Char) (cs rest : List Char), iri.toList = c :: cs ++ ':' :: rest ∧ c.isAlpha = true ∧
    (∀ d ∈ cs, isSchemePart d = true) ∧ rest ≠ [] ∧ ∀ d ∈ iri.toList, Text.isBlank d = false

theorem Absolute.exists_splitScheme? {iri : String} (h : Absolute iri) :
    ∃ scheme rest, splitScheme? iri = some (scheme, rest) := by
  obtain ⟨c, cs, rest, hiri, hc, hcs, -⟩ := h
  exact ⟨c :: cs, rest, splitScheme?_eq_some_iff.mpr ⟨hiri, isScheme_cons.mpr ⟨hc, hcs⟩⟩⟩

/-- **The check of an IRI** asks whether it is absolute. -/
theorem isAbsolute_iff {iri : String} : isAbsolute iri = true ↔ Absolute iri := by
  unfold isAbsolute
  constructor
  · intro h
    split at h
    · rename_i scheme rest hs
      obtain ⟨hiri, hscheme⟩ := splitScheme?_eq_some_iff.mp hs
      cases scheme with
      | nil => cases hscheme
      | cons c cs =>
        obtain ⟨hc, hcs⟩ := isScheme_cons.mp hscheme
        simp only [Bool.and_eq_true, Bool.not_eq_true', List.isEmpty_eq_false_iff,
          List.any_eq_false, Bool.not_eq_true] at h
        exact ⟨c, cs, rest, hiri, hc, hcs, h.1, h.2⟩
    · cases h
  · rintro ⟨c, cs, rest, hiri, hc, hcs, hrest, hblank⟩
    rw [splitScheme?_eq_some_iff.mpr ⟨hiri, isScheme_cons.mpr ⟨hc, hcs⟩⟩]
    simp only [Bool.and_eq_true, Bool.not_eq_true', List.isEmpty_eq_false_iff, List.any_eq_false,
      Bool.not_eq_true]
    exact ⟨hrest, hblank⟩

/-- Whether an IRI is the label of a blank node. -/
def IsBlankLabel (iri : String) : Prop := ∃ label, iri.toList = '_' :: ':' :: label

theorem Absolute.not_isBlankLabel {iri : String} (h : Absolute iri) : ¬ IsBlankLabel iri := by
  rintro ⟨label, hlabel⟩
  obtain ⟨c, cs, rest, hiri, hc, -⟩ := h
  rw [hlabel] at hiri
  rw [← (List.cons.inj hiri).1] at hc
  exact absurd hc (by decide)

end Iri

/-! ### Statements -/

namespace Statement

/-- The IRIs of a statement are absolute; its graph may be the default one. -/
structure WellFormed (st : Statement) : Prop where
  subject : Iri.Absolute st.subject
  predicate : Iri.Absolute st.predicate
  graph : st.graph = "" ∨ Iri.Absolute st.graph
  object : ∀ iri, st.object = .iri iri → Iri.Absolute iri

/-- **The check of a statement** asks whether it is well-formed. -/
theorem invalid?_eq_none_iff {st : Statement} : st.invalid? = none ↔ st.WellFormed := by
  have hchecked : st.invalid? = none ↔ ∀ q ∈ st.checked, Iri.Absolute q.2 := by
    rw [invalid?, Option.map_eq_none_iff, List.find?_eq_none]
    simp only [Bool.not_eq_true', Bool.not_eq_false, Iri.isAbsolute_iff]
  rw [hchecked]
  unfold checked
  constructor
  · intro h
    refine ⟨h (.subject, st.subject) (by simp), h (.predicate, st.predicate) (by simp), ?_, ?_⟩
    · by_cases hg : st.graph = ""
      · exact Or.inl hg
      · exact Or.inr (h (.graph, st.graph) (by simp [hg]))
    · intro iri hiri
      exact h (.object, iri) (by simp [hiri])
  · intro h q hq
    simp only [List.mem_append, List.mem_cons, List.not_mem_nil, or_false] at hq
    rcases hq with ((rfl | rfl) | hq) | hq
    · exact h.subject
    · exact h.predicate
    · split_ifs at hq with hg
      · cases hq
      · rw [List.mem_singleton] at hq
        subst hq
        exact h.graph.resolve_left (by simpa using hg)
    · split at hq
      · rename_i iri hiri
        rw [List.mem_singleton] at hq
        subst hq
        exact h.object iri hiri
      · cases hq

/-- **No label** stands where an IRI is checked. -/
theorem WellFormed.not_isBlankLabel {st : Statement} (h : st.WellFormed) {q : Position × String}
    (hq : q ∈ st.checked) : ¬ Iri.IsBlankLabel q.2 := by
  have hall : ∀ q ∈ st.checked, Iri.isAbsolute q.2 = true := by
    simpa [invalid?] using invalid?_eq_none_iff.mpr h
  exact (Iri.isAbsolute_iff.mp (hall q hq)).not_isBlankLabel

end Statement

end GraphLedger
