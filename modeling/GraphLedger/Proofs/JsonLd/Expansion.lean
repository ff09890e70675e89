import GraphLedger.JsonLd.Context
import GraphLedger.Proofs.Statement.WellFormed

/-! # Terms and what they are expanded to

A context knows its terms by their names, and it is asked for a name in two ways: as a whole, and
for what stands before the first colon. This says what each change of a context does to the answers,
and when a name is left as it is.

* `term?_define`, `term?_undefine`, `term?_resolved`: the terms of a changed context.
* `apply_eq_ok`, `withDefinitions_induction`: how a context object is applied.
* `expandPrefixed?_eq_some_iff`: what a name with a prefix is expanded to.
* `expandTerm_of_term`, `expandTerm_of_no_term`: what a name is expanded to as a property.
* `expandTerm_of_absolute`: an absolute IRI without a term or a prefix stands for itself. -/

namespace GraphLedger.JsonLd.Context

/-! ### The terms of a changed context -/

section Lookup
variable {α : Type}

theorem lookup_cons_eq_ite (l : List (String × α)) (name other : String) (a : α) :
    ((name, a) :: l).lookup other = if other = name then some a else l.lookup other := by
  by_cases h : other = name
  · simp [h]
  · have hne : (other == name) = false := beq_eq_false_iff_ne.mpr h
    rw [List.lookup_cons, hne, if_neg h]

theorem lookup_filter_ne (l : List (String × α)) (name other : String) :
    (l.filter fun p => p.1 != name).lookup other =
      if other = name then none else l.lookup other := by
  induction l with
  | nil => simp
  | cons p l ih =>
    obtain ⟨k, a⟩ := p
    rw [lookup_cons_eq_ite]
    by_cases hk : k = name
    · subst hk
      simp only [List.filter_cons, bne_self_eq_false, Bool.false_eq_true, if_false, ih]
      by_cases hother : other = k <;> simp [hother]
    · have hne : (k != name) = true := bne_iff_ne.mpr hk
      simp only [List.filter_cons, hne, if_true, lookup_cons_eq_ite, ih]
      by_cases hother : other = k
      · simp [hother, hk]
      · simp [hother]

theorem lookup_map_snd (l : List (String × α)) (f : α → α) (name : String) :
    (l.map fun p => (p.1, f p.2)).lookup name = (l.lookup name).map f := by
  induction l with
  | nil => rfl
  | cons p l ih =>
    obtain ⟨k, a⟩ := p
    rw [List.map_cons, lookup_cons_eq_ite, lookup_cons_eq_ite, ih]
    by_cases hk : name = k <;> simp [hk]

end Lookup

section Terms
variable (c : Context) (name other : String)

theorem term?_define (t : Term) :
    (c.define name t).term? other = if other = name then some t else c.term? other := by
  unfold define term?
  rw [lookup_cons_eq_ite, lookup_filter_ne]
  by_cases h : other = name <;> simp [h]

theorem term?_undefine :
    (c.undefine name).term? other = if other = name then none else c.term? other :=
  lookup_filter_ne c.terms name other

theorem term?_resolved : c.resolved.term? name = (c.term? name).map c.resolveTerm :=
  lookup_map_snd c.terms c.resolveTerm name

end Terms

/-! ### Context objects -/

section Apply
variable {c c' : Context} {fs : Json.Fields}

/-- **A context object** is applied by its keywords, its definitions, and one expansion of all. -/
theorem apply_eq_ok : c.apply fs = .ok c' ↔
    ∃ d, (c.withKeywords fs).withDefinitions fs = .ok d ∧ c' = d.resolved := by
  unfold apply
  cases (c.withKeywords fs).withDefinitions fs with
  | error e =>
    constructor
    · intro h; cases h
    · rintro ⟨d, h, -⟩; cases h
  | ok d =>
    constructor
    · intro h; cases h; exact ⟨d, rfl, rfl⟩
    · rintro ⟨d', h, rfl⟩; cases h; rfl

theorem term?_withKeywords (name : String) : (c.withKeywords fs).term? name = c.term? name := by
  unfold withKeywords
  cases Json.Fields.get? fs "@vocab" <;> cases Json.Fields.get? fs "@base" <;> rfl

end Apply

theorem withDefinition_eq_ok {c c' : Context} {name : String} {v : Json}
    (h : c.withDefinition name v = .ok c') :
    (∃ t, c' = c.define name t) ∨ c' = c.undefine name := by
  cases v with
  | null => cases h; exact Or.inr rfl
  | string iri => cases h; exact Or.inl ⟨_, rfl⟩
  | object fs => cases h; exact Or.inl ⟨_, rfl⟩
  | bool b | int n | float x | array items => cases h

theorem withDefinitions_induction {P : Context → Prop}
    (hstep : ∀ {c c' : Context} {name : String} {v : Json}, isKeyword name = false → P c →
      c.withDefinition name v = .ok c' → P c') :
    ∀ {fs : Json.Fields} {c c' : Context}, P c → c.withDefinitions fs = .ok c' → P c'
  | [], _, _, h, hfs => by
    cases hfs
    exact h
  | (name, v) :: fs, c, c', h, hfs => by
    rw [withDefinitions] at hfs
    split at hfs
    · exact withDefinitions_induction hstep h hfs
    · rename_i hkeyword
      split at hfs
      · rename_i inner hinner
        exact withDefinitions_induction hstep (hstep (by simpa using hkeyword) h hinner) hfs
      · cases hfs

/-! ### Names with a prefix -/

section Prefixed
variable {c : Context} {value : String}

/-- **A name with a prefix** begins with a term and a colon, and no two slashes follow. -/
theorem expandPrefixed?_eq_some_iff {iri : String} : c.expandPrefixed? value = some iri ↔
    ∃ name rest t, Text.splitAtFirst ':' value.toList = some (name, rest) ∧
      isHierarchical rest = false ∧ c.term? (String.ofList name) = some t ∧
      iri = t.iri ++ String.ofList rest := by
  unfold expandPrefixed?
  constructor
  · intro h
    split at h
    · cases h
    · rename_i name rest hsplit
      split at h
      · cases h
      · rename_i hrest
        obtain ⟨t, ht, rfl⟩ := Option.map_eq_some_iff.mp h
        exact ⟨name, rest, t, hsplit, by simpa using hrest, ht, rfl⟩
  · rintro ⟨name, rest, t, hsplit, hrest, ht, rfl⟩
    rw [hsplit]
    simp [hrest, ht]

theorem expandPrefixed?_of_no_colon (h : ':' ∉ value.toList) : c.expandPrefixed? value = none := by
  rw [expandPrefixed?, Text.splitAtFirst_eq_none h]

theorem not_isBlankLabel_before_colon {cs name rest : List Char}
    (h : Text.splitAtFirst ':' cs = some (name, rest)) :
    ¬ Iri.IsBlankLabel (String.ofList name) := by
  rintro ⟨label, hlabel⟩
  have hcolon := Text.not_mem_of_splitAtFirst h
  rw [String.toList_ofList] at hlabel
  rw [hlabel] at hcolon
  exact hcolon (by simp)

end Prefixed

/-! ### Names as properties -/

section Expand
variable {c : Context} {value : String}

theorem isReserved_eq_false_iff :
    isReserved value = false ↔ ¬ Iri.IsBlankLabel value ∧ isKeyword value = false := by
  unfold isReserved isKeyword Iri.IsBlankLabel
  constructor
  · intro h
    split at h
    · cases h
    · cases h
    · rename_i hlabel hkeyword
      refine ⟨fun ⟨label, hvalue⟩ => hlabel label hvalue, ?_⟩
      split
      · exact absurd ‹_› (hkeyword _)
      · rfl
  · rintro ⟨hlabel, hkeyword⟩
    split
    · exact absurd ⟨_, ‹_›⟩ hlabel
    · rename_i hvalue
      rw [hvalue] at hkeyword
      cases hkeyword
    · rfl

theorem expandTerm_of_reserved (h : isReserved value = true) : c.expandTerm value = value :=
  if_pos h

/-- **A term** is expanded to what it stands for. -/
theorem expandTerm_of_term {t : Term} (h : isReserved value = false)
    (ht : c.term? value = some t) : c.expandTerm value = t.iri := by
  unfold expandTerm
  rw [h, ht]
  rfl

theorem expandTerm_of_no_term (h : isReserved value = false) (ht : c.term? value = none)
    (hcolon : ':' ∉ value.toList) :
    c.expandTerm value = match c.vocab with
      | some v => v ++ value
      | none => value := by
  have hscheme : Iri.scheme? value = none := by
    rw [Iri.scheme?, Iri.splitScheme?, Text.splitAtFirst_eq_none hcolon]
    rfl
  unfold expandTerm
  rw [h, ht, expandPrefixed?_of_no_colon hcolon, hscheme]
  rfl

theorem isReserved_of_absolute (h : Iri.Absolute value) : isReserved value = false := by
  obtain ⟨x, cs, rest, hiri, halpha, -⟩ := h
  unfold isReserved
  rw [hiri, List.cons_append]
  -- no reserved name begins with a letter
  split
  · rename_i he
    rw [(List.cons.inj he).1] at halpha
    cases halpha
  · rename_i he
    rw [(List.cons.inj he).1] at halpha
    cases halpha
  · rfl

/-- **An absolute IRI** that is no term and has no prefix stands for itself. -/
theorem expandTerm_of_absolute (h : Iri.isAbsolute value = true) (ht : c.term? value = none)
    (hexpanded : c.expandPrefixed? value = none) : c.expandTerm value = value := by
  have habsolute := Iri.isAbsolute_iff.mp h
  obtain ⟨scheme, rest, hsplit⟩ := habsolute.exists_splitScheme?
  have hscheme : (Iri.scheme? value).isSome = true := by rw [Iri.scheme?, hsplit]; rfl
  unfold expandTerm
  rw [isReserved_of_absolute habsolute, ht, hexpanded]
  simp [hscheme]

end Expand

end GraphLedger.JsonLd.Context
