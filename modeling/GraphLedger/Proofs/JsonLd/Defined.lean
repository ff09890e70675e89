import GraphLedger.Proofs.JsonLd.Expansion

/-! # What a definition makes of a name

A context object gives names their meaning: a name is defined by an IRI, or by an object with the
IRI as its `@id`; if the object has none, the name itself is taken. The vocabulary of the object is
applied before its definitions, so that they could use it, but what they are expanded by is only
prefixes. So a relative IRI in a definition stays relative, and a name that is given only a type is
no longer expanded by the vocabulary, as it would be if it were not defined at all.

* `term?_withDefinitions`: what each name stands for after the definitions of an object.
* `vocab_apply`: the vocabulary that an object sets.
* `definition_ignores_vocab`: what a defined name is expanded to.
* `typed_term_outside_vocab`: a name with only a type, which is not in the vocabulary. -/

namespace GraphLedger.JsonLd

namespace Context

/-! ### Definitions -/

/-- The term that a definition gives a name, if any. -/
def definition? (name : String) : Json → Option Term
  | .string iri => some ⟨iri, none⟩
  | .object fs =>
    some ⟨((Json.Fields.get? fs "@id").bind Json.asString?).getD name,
      ((Json.Fields.get? fs "@type").bind Json.asString?).map coercionOf⟩
  | _ => none

theorem term?_withDefinition {c c' : Context} {name : String} {v : Json}
    (h : c.withDefinition name v = .ok c') (other : String) :
    c'.term? other = if other = name then definition? name v else c.term? other := by
  cases v with
  | null =>
    cases h
    exact term?_undefine c name other
  | string iri =>
    cases h
    exact term?_define c name other _
  | object fs =>
    cases h
    exact term?_define c name other _
  | bool b | int n | float x | array items => cases h

/-- **What a name stands for** after the definitions of an object that has each key once. -/
theorem term?_withDefinitions {name : String} (hname : isKeyword name = false) :
    ∀ {fs : Json.Fields} {c d : Context}, (fs.map Prod.fst).Nodup →
      c.withDefinitions fs = .ok d →
      d.term? name = match Json.Fields.get? fs name with
        | some v => definition? name v
        | none => c.term? name
  | [], _, _, _, h => by
    cases h
    rfl
  | (k, v) :: fs, c, d, hkeys, h => by
    obtain ⟨hk, hkeys⟩ := List.nodup_cons.mp hkeys
    rw [withDefinitions] at h
    have hcons : Json.Fields.get? ((k, v) :: fs) name =
        if name = k then some v else Json.Fields.get? fs name := lookup_cons_eq_ite fs k name v
    split at h
    · rename_i hkeyword
      have hne : name ≠ k := fun he => by
        rw [he, hkeyword] at hname
        cases hname
      rw [hcons, if_neg hne]
      exact term?_withDefinitions hname hkeys h
    · split at h
      · rename_i inner hinner
        rw [term?_withDefinitions hname hkeys h, term?_withDefinition hinner, hcons]
        by_cases he : name = k
        · have hnone : Json.Fields.get? fs name = none := by
            refine List.lookup_eq_none_iff.mpr fun p hp => bne_iff_ne.mpr fun hkey => hk ?_
            rw [← he, hkey]
            exact List.mem_map.mpr ⟨p, hp, rfl⟩
          rw [if_pos he, if_pos he, hnone, he]
        · rw [if_neg he, if_neg he]
      · cases h

theorem vocab_apply {c c' : Context} {fs : Json.Fields} {v : Json}
    (hvocab : Json.Fields.get? fs "@vocab" = some v) (h : c.apply fs = .ok c') :
    c'.vocab = v.asString?.map c.expandReference := by
  obtain ⟨d, hd, rfl⟩ := apply_eq_ok.mp h
  have hkeywords : (c.withKeywords fs).vocab = v.asString?.map c.expandReference := by
    unfold withKeywords
    rw [hvocab]
    cases Json.Fields.get? fs "@base" <;> rfl
  have hdefinitions : d.vocab = v.asString?.map c.expandReference := by
    refine withDefinitions_induction (P := fun d => d.vocab = v.asString?.map c.expandReference)
      (fun _ hkept hv => ?_) hkeywords hd
    rcases withDefinition_eq_ok hv with ⟨t, rfl⟩ | rfl <;> exact hkept
  exact hdefinitions

theorem expandTerm_of_definition {c c' : Context} {fs : Json.Fields} {name : String} {v : Json}
    {t : Term} (hkeys : (fs.map Prod.fst).Nodup) (h : c.apply fs = .ok c')
    (hname : isReserved name = false) (hv : Json.Fields.get? fs name = some v)
    (ht : definition? name v = some t) (hcolon : ':' ∉ t.iri.toList) :
    c'.expandTerm name = t.iri := by
  obtain ⟨d, hd, rfl⟩ := apply_eq_ok.mp h
  have hterm := term?_withDefinitions (isReserved_eq_false_iff.mp hname).2 hkeys hd
  rw [hv] at hterm
  dsimp only at hterm
  rw [ht] at hterm
  have hresolved : d.resolved.term? name = some (d.resolveTerm t) := by
    rw [term?_resolved, hterm]
    rfl
  rw [expandTerm_of_term hname hresolved]
  show (d.expandPrefixed? t.iri).getD t.iri = t.iri
  rw [expandPrefixed?_of_no_colon hcolon]
  rfl

end Context

/-! ### The vocabulary and definitions -/

open Context in
/-- **Definitions and the vocabulary.** Let an object with distinct keys be merged that sets the
vocabulary to an IRI with a scheme that is expanded to itself. Then this is the vocabulary, and a
name without a colon that is not defined is put behind it. A name that is defined without an IRI
stands for itself, and one that is defined by an IRI without a colon for that IRI, so that neither
is in the vocabulary. -/
theorem definition_ignores_vocab {c c' : Context} {fs : Json.Fields}
    (hkeys : (fs.map Prod.fst).Nodup) (h : c.merge (.object fs) = .ok c') {V : String}
    (hvocab : Json.Fields.get? fs "@vocab" = some (.string V)) (hself : c.expandReference V = V)
    (hscheme : (Iri.scheme? V).isSome = true) {t : String} (hcolon : ':' ∉ t.toList)
    (hkeyword : Context.isKeyword t = false) :
    c'.vocab = some V ∧
    (∀ given, Json.Fields.get? fs t = some (.object given) →
      Json.Fields.get? given "@id" = none → c'.expandTerm t = t ∧ t ≠ V ++ t) ∧
    (∀ r : String, ':' ∉ r.toList → (Json.Fields.get? fs t = some (.string r) ∨
        ∃ given, Json.Fields.get? fs t = some (.object given) ∧
          Json.Fields.get? given "@id" = some (.string r)) →
      c'.expandTerm t = r ∧ r ≠ V ++ r) ∧
    (Json.Fields.get? fs t = none → c.term? t = none → c'.expandTerm t = V ++ t) := by
  have happly : c.apply fs = .ok c' := by rwa [Context.merge] at h
  have hset : c'.vocab = some V := by
    rw [vocab_apply hvocab happly]
    exact congrArg some hself
  have hreserved : isReserved t = false := by
    refine isReserved_eq_false_iff.mpr ⟨?_, hkeyword⟩
    rintro ⟨label, hlabel⟩
    rw [hlabel] at hcolon
    exact hcolon (by simp)
  have houtside : ∀ r : String, r ≠ V ++ r := fun r hr => by
    have hempty : V = "" := by
      have hlength := congrArg String.length hr
      rw [String.length_append] at hlength
      exact String.length_eq_zero_iff.mp (by omega)
    rw [hempty] at hscheme
    cases hscheme
  refine ⟨hset, fun given hgiven hid => ⟨?_, houtside t⟩, fun r hr hdefined =>
    ⟨?_, houtside r⟩, fun hnone hterm => ?_⟩
  · have hdefinition : ∃ term, definition? t (.object given) = some term ∧ term.iri = t := by
      refine ⟨_, rfl, ?_⟩
      rw [hid]
      rfl
    obtain ⟨term, hterm, hiri⟩ := hdefinition
    rw [expandTerm_of_definition hkeys happly hreserved hgiven hterm (by rwa [hiri]), hiri]
  · obtain ⟨v, term, hv, hterm, hiri⟩ : ∃ v term, Json.Fields.get? fs t = some v ∧
        definition? t v = some term ∧ term.iri = r := by
      rcases hdefined with hv | ⟨given, hv, hid⟩
      · exact ⟨_, _, hv, rfl, rfl⟩
      · refine ⟨_, _, hv, rfl, ?_⟩
        rw [hid]
        rfl
    rw [expandTerm_of_definition hkeys happly hreserved hv hterm (by rwa [hiri]), hiri]
  · have hundefined : c'.term? t = none := by
      obtain ⟨d, hd, rfl⟩ := apply_eq_ok.mp happly
      have hkept := term?_withDefinitions hkeyword hkeys hd
      rw [hnone] at hkept
      dsimp only at hkept
      rw [term?_resolved, hkept, term?_withKeywords, hterm]
      rfl
    rw [expandTerm_of_no_term hreserved hundefined hcolon, hset]

/-- A vocabulary, a name with only a type, a relative name, and a name that is not defined. -/
def vocabContext : Json.Fields :=
  [("@vocab", .string "http://v.org/"), ("born", .object [("@type", .string "urn:date")]),
    ("called", .string "name")]

theorem definition_ignores_vocab_of_typed :
    ∃ c', Context.empty.merge (.object vocabContext) = .ok c' ∧ c'.vocab = some "http://v.org/" ∧
      c'.expandTerm "born" = "born" ∧ c'.expandTerm "called" = "name" ∧
      c'.expandTerm "age" = "http://v.org/age" := by
  have hkeys : (vocabContext.map Prod.fst).Nodup := by decide
  have hself : Context.empty.expandReference "http://v.org/" = "http://v.org/" := by
    decide +kernel
  obtain ⟨c', hc⟩ : ∃ c', Context.empty.merge (.object vocabContext) = .ok c' := ⟨_, rfl⟩
  obtain ⟨hvocab, hborn, -, -⟩ := definition_ignores_vocab hkeys hc rfl hself (by decide +kernel)
    (t := "born") (by decide) (by decide)
  obtain ⟨-, -, hcalled, -⟩ := definition_ignores_vocab hkeys hc rfl hself (by decide +kernel)
    (t := "called") (by decide) (by decide)
  obtain ⟨-, -, -, hage⟩ := definition_ignores_vocab hkeys hc rfl hself (by decide +kernel)
    (t := "age") (by decide) (by decide)
  exact ⟨c', hc, hvocab, (hborn _ rfl rfl).1, (hcalled "name" (by decide) (Or.inl rfl)).1,
    hage rfl rfl⟩

/-- A name with only a type, and a relative name, that are not in the vocabulary. -/
theorem typed_term_outside_vocab :
    Json.Fields.get? vocabContext "@vocab" = some (.string "http://v.org/") ∧
      Context.empty.expandReference "http://v.org/" = "http://v.org/" ∧
      (Iri.scheme? "http://v.org/").isSome = true ∧
      ∃ c', Context.empty.merge (.object vocabContext) = .ok c' ∧
        c'.expandTerm "born" ≠ "http://v.org/" ++ "born" ∧
        c'.expandTerm "called" ≠ "http://v.org/" ++ "name" := by
  refine ⟨rfl, by decide +kernel, by decide +kernel,
    ⟨[("called", ⟨"name", none⟩), ("born", ⟨"born", some (.datatype "urn:date")⟩)],
      some "http://v.org/", none⟩, by decide +kernel, by decide +kernel, by decide +kernel⟩

end GraphLedger.JsonLd
