import GraphLedger.Proofs.JsonLd.Leaves
import Mathlib.Data.List.Nodup

/-! # The objects around a leaf

Before the fields of an object are translated, its header is: the context, the name and the graph
that hold inside it. What is known of the objects around a value stays known while more nodes are
named, since no label loses its IRI, and an object adds to it what its header tells.

* `Skolem.Extends.makes`: the statement of a leaf stays that of the leaf.
* `valueStatement?_eq`: what the statement of a value looks like.
* `Inside`: what is known of the objects around a value.
* `Inside.header`: what a header adds to it. -/

namespace GraphLedger.JsonLd

/-! ### What was made stays made -/

namespace Skolem.Extends
variable {s s' : Skolem}

theorem valueStatement? (h : s.Extends s') {c : Context} {p : Place} {coercion : Option Coercion}
    {v : Json} {st : Statement} (hv : valueStatement? c s p coercion v = some st) :
    JsonLd.valueStatement? c s' p coercion v = some st := by
  have hlink : ∀ {id : String}, (s.iriOf? c id).map p.link = some st →
      (s'.iriOf? c id).map p.link = some st := fun {id} hid => by
    obtain ⟨iri, hiri, rfl⟩ := Option.map_eq_some_iff.mp hid
    rw [h.iriOf? hiri]
    rfl
  unfold JsonLd.valueStatement? at hv ⊢
  cases v with
  | string x =>
    cases coercion with
    | none => exact hv
    | some co =>
      cases co with
      | id => exact hlink hv
      | datatype d => exact hv
  | object fs =>
    dsimp only at hv ⊢
    cases hget : Json.Fields.get? fs "@value" with
    | some literal => rw [hget] at hv; exact hv
    | none => rw [hget] at hv; exact hlink hv
  | _ => exact hv

theorem named (h : s.Extends s') {c : Context} {graph : String} {l : Level}
    (hl : l.Named c graph s) : l.Named c graph s' := by
  unfold Level.Named at hl ⊢
  split at hl
  · obtain ⟨iri, hiri, hname⟩ := hl
    exact ⟨iri, h.iriOf? hiri, hname⟩
  · exact hl
  · exact hl

theorem assigned (h : s.Extends s') {c : Context} {graph : String} {around : List Level}
    (ha : Assigned c graph s around) : Assigned c graph s' around := by
  induction around with
  | nil => trivial
  | cons l around ih =>
    obtain ⟨⟨inner, hinner, hl⟩, hrest⟩ := ha
    exact ⟨⟨inner, hinner, h.named hl⟩, ih hrest⟩

theorem makes (h : s.Extends s') {c : Context} {graph : String} {leaf : Leaf}
    {st : Statement} (hm : leaf.Makes c graph s st) : leaf.Makes c graph s' st := by
  obtain ⟨inner, hinner, hpredicate, hst⟩ := hm.predicate
  refine ⟨h.assigned hm.assigned, hm.subject, hm.graph, inner, hinner, hpredicate, ?_⟩
  cases leaf with
  | type around entry => exact hst
  | value around key v => exact h.valueStatement? hst
  | node around key nested => exact hst

end Skolem.Extends

namespace Names.Fresh
variable {low mid high : Nat}

theorem nothing : Names.nothing.Fresh low high := ⟨.nil, fun n hn => by cases hn⟩

theorem given (iri : String) : (Names.object (.given iri) .nothing).Fresh low high :=
  ⟨.nil, fun n hn => by cases hn⟩

theorem minted (n : Nat) : (Names.object (.minted n) .nothing).Fresh n (n + 1) := by
  refine ⟨List.nodup_singleton n, fun m hm => ?_⟩
  rw [List.mem_singleton.mp hm]
  exact ⟨Nat.le_refl n, Nat.lt_succ_self n⟩

theorem both {first rest : Names} (h : first.Fresh low mid) (h' : rest.Fresh mid high)
    (hlow : low ≤ mid) (hhigh : mid ≤ high) : (Names.both first rest).Fresh low high := by
  refine ⟨List.nodup_append'.mpr ⟨h.nodup, h'.nodup, fun n hn hn' => ?_⟩, fun n hn => ?_⟩
  · have hlt := (h.bounds n hn).2
    have hle := (h'.bounds n hn').1
    omega
  · rcases List.mem_append.mp hn with hn | hn
    · obtain ⟨hle, hlt⟩ := h.bounds n hn
      omega
    · obtain ⟨hle, hlt⟩ := h'.bounds n hn
      omega

theorem object {name : Name} {inside : Names} (h : (Names.object name .nothing).Fresh low mid)
    (h' : inside.Fresh mid high) (hlow : low ≤ mid) (hhigh : mid ≤ high) :
    (Names.object name inside).Fresh low high := by
  have hboth := h.both h' hlow hhigh
  cases name <;> exact ⟨hboth.nodup, hboth.bounds⟩

end Names.Fresh

/-! ### Values -/

theorem valueObject_eq {c : Context} {p : Place} {literal : Json} {fs : Json.Fields}
    {st : Statement} (h : valueObject c p literal fs = .ok st) :
    ∃ x dataType language, st = p.literal x dataType language ∧
      (language.isSome = true → dataType = some Vocabulary.langString) := by
  have hmap : ∀ {dataType language : Option String},
      (lexical literal).map (fun x => p.literal x dataType language) = .ok st →
      ∃ x, st = p.literal x dataType language := fun hst => by
    cases hx : lexical literal with
    | error e => rw [hx] at hst; cases hst
    | ok x => rw [hx] at hst; cases hst; exact ⟨x, rfl⟩
  unfold valueObject at h
  dsimp only at h
  split at h
  · cases h
  · obtain ⟨x, hst⟩ := hmap h
    exact ⟨x, _, _, hst, fun _ => rfl⟩
  · obtain ⟨x, hst⟩ := hmap h
    exact ⟨x, _, _, hst, fun h => absurd h Bool.false_ne_true⟩
  · obtain ⟨x, hst⟩ := hmap h
    exact ⟨x, _, _, hst, fun h => absurd h Bool.false_ne_true⟩

theorem valueStatement?_eq {c : Context} {s : Skolem} {p : Place} {coercion : Option Coercion}
    {v : Json} {st : Statement} (h : valueStatement? c s p coercion v = some st) :
    (∃ iri, st = p.link iri) ∨ ∃ x dataType language, st = p.literal x dataType language ∧
      (language.isSome = true → dataType = some Vocabulary.langString) := by
  have hlink : ∀ {id : String}, (s.iriOf? c id).map p.link = some st → ∃ iri, st = p.link iri :=
    fun hid => by
      obtain ⟨iri, -, hst⟩ := Option.map_eq_some_iff.mp hid
      exact ⟨iri, hst.symm⟩
  have hliteral : ∀ {x : String} {dataType : Option String},
      some (p.literal x dataType none) = some st →
      ∃ x dataType language, st = p.literal x dataType language ∧
        (language.isSome = true → dataType = some Vocabulary.langString) := fun hst =>
    ⟨_, _, none, (Option.some.inj hst).symm, fun h => absurd h Bool.false_ne_true⟩
  unfold valueStatement? at h
  split at h
  · cases h
  · cases h
  · exact Or.inr (hliteral h)
  · exact Or.inr (hliteral h)
  · exact Or.inr (hliteral h)
  · split at h
    · exact Or.inl (hlink h)
    · exact Or.inr (hliteral h)
    · exact Or.inr (hliteral h)
  · split at h
    · rename_i literal _
      cases hv : valueObject c p literal _ with
      | error e => rw [hv] at h; cases h
      | ok st' => rw [hv] at h; cases h; exact Or.inr (valueObject_eq hv)
    · exact Or.inl (hlink h)

/-! ### Objects around -/

theorem has_eq_isSome (fs : Json.Fields) (key : String) :
    Json.Fields.has fs key = (Json.Fields.get? fs key).isSome := by
  induction fs with
  | nil => rfl
  | cons f fs ih =>
    obtain ⟨k, v⟩ := f
    unfold Json.Fields.has Json.Fields.get? at ih ⊢
    by_cases hk : k = key
    · subst hk
      simp
    · have hne : (k == key) = false := by simpa using hk
      have hne' : (key == k) = false := by simpa using fun h => hk h.symm
      simp [List.lookup_cons, hne, hne', ih]

theorem explicitId_eq_some {fs : Json.Fields} {id : String} (h : explicitId fs = .ok (some id)) :
    Json.Fields.get? fs "@id" = some (.string id) := by
  unfold explicitId at h
  split at h
  · rename_i hid
    cases h
    exact hid
  · cases h
  · cases h

theorem explicitId_eq_none {fs : Json.Fields} (h : explicitId fs = .ok none) :
    Json.Fields.get? fs "@id" = none := by
  unfold explicitId at h
  split at h
  · cases h
  · cases h
  · assumption

theorem graphIn_of_id {graph : String} {around : List Level} {fs : Json.Fields} {name : Name}
    {v : Json} (h : Json.Fields.get? fs "@id" = some v) :
    graphIn graph (⟨fs, name⟩ :: around) =
      if isContainer fs then name.iri else graphIn graph around := by
  rw [graphIn_cons, Level.namesGraph, has_eq_isSome, h, Option.isSome_some, Bool.and_true]
  rfl

theorem graphIn_of_no_id {graph : String} {around : List Level} {fs : Json.Fields} {name : Name}
    (h : Json.Fields.get? fs "@id" = none) :
    graphIn graph (⟨fs, name⟩ :: around) = graphIn graph around := by
  rw [graphIn_cons, Level.namesGraph, has_eq_isSome, h, Option.isSome_none, Bool.and_false]
  rfl

/-- The place of the statements of a property of the innermost object. -/
def placeIn (graph : String) (around : List Level) (predicate : String) : Place :=
  ⟨subjectIn around, predicate, graphIn graph around⟩

section Inside
variable (c₀ : Context) (graph₀ : String)

/-- What is known of the objects around a value when the value is translated. -/
structure Inside (around : List Level) (c : Context) (s : Skolem) : Prop where
  context : contextIn c₀ around = .ok c
  assigned : Assigned c₀ graph₀ s around

variable {c₀ graph₀} {around : List Level} {c c' : Context} {s s' : Skolem}

theorem Inside.later (h : Inside c₀ graph₀ around c s) (hs : s.Extends s') :
    Inside c₀ graph₀ around c s' :=
  ⟨h.context, hs.assigned h.assigned⟩

/-- **The header of an object** tells its name and what is known inside it. -/
theorem Inside.header {fs : Json.Fields} {h : Header} (hin : Inside c₀ graph₀ around c s)
    (hh : Gives (header c (graphIn graph₀ around) fs) s h s') :
    ∃ name : Name, name.iri = h.iri ∧ (Names.object name .nothing).Fresh s.next s'.next ∧
      s.Extends s' ∧ Inside c₀ graph₀ (⟨fs, name⟩ :: around) h.context s' ∧
      graphIn graph₀ (⟨fs, name⟩ :: around) = h.graph := by
  unfold JsonLd.header at hh
  obtain ⟨inner, s₁, hmerge, hread⟩ := gives_bind.mp hh
  obtain ⟨hinner, rfl⟩ := gives_lift.mp hmerge
  obtain ⟨found, s₂, hfound, hname⟩ := gives_bind.mp hread
  obtain ⟨hid, rfl⟩ := gives_lift.mp hfound
  have hcontext : ∀ name, contextIn c₀ (⟨fs, name⟩ :: around) = .ok inner := fun name => by
    rw [contextIn, hin.context]
    exact hinner
  have hinside : ∀ {name : Name} {s' : Skolem}, s₂.Extends s' →
      Level.Named ⟨fs, name⟩ inner (graphIn graph₀ around) s' →
      Inside c₀ graph₀ (⟨fs, name⟩ :: around) inner s' := fun hs hnamed =>
    ⟨hcontext _, ⟨inner, hcontext _, hnamed⟩, hs.assigned hin.assigned⟩
  cases found with
  | some id =>
    have hget := explicitId_eq_some hid
    obtain ⟨iri, s₃, hiri, hpure⟩ := gives_bind.mp hname
    obtain ⟨rfl, rfl⟩ := gives_pure.mp hpure
    obtain ⟨hs, hiri⟩ := gives_nodeIri hiri
    refine ⟨.given iri, rfl, .given iri, hs, hinside hs ?_, graphIn_of_id hget⟩
    rw [Level.Named, hget]
    exact ⟨iri, hiri, rfl⟩
  | none =>
    have hget := explicitId_eq_none hid
    dsimp only at hname
    by_cases hcontainer : isContainer fs = true
    · rw [if_pos hcontainer] at hname
      obtain ⟨rfl, rfl⟩ := gives_pure.mp hname
      refine ⟨.given _, rfl, .given _, .refl _, hinside (.refl _) ?_, graphIn_of_no_id hget⟩
      rw [Level.Named, hget]
      exact (if_pos hcontainer).mpr rfl
    · rw [if_neg hcontainer] at hname
      obtain ⟨iri, s₃, hmint, hpure⟩ := gives_bind.mp hname
      obtain ⟨rfl, rfl⟩ := gives_pure.mp hpure
      obtain ⟨rfl, rfl⟩ := gives_mint.mp hmint
      have hs : s₂.Extends { s₂ with next := s₂.next + 1 } := ⟨Nat.le_succ _, fun _ _ h => h⟩
      refine ⟨.minted s₂.next, rfl, .minted _, hs, hinside hs ?_, graphIn_of_no_id hget⟩
      rw [Level.Named, hget]
      exact (if_neg hcontainer).mpr ⟨_, rfl⟩

end Inside

end GraphLedger.JsonLd
