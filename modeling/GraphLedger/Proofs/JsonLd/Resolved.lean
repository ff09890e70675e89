import GraphLedger.Proofs.JsonLd.Agreeing

/-! # Definitions expanded once

The definitions of a context may refer to each other. When a value of `@context` is merged, each of
them is expanded once against the definitions as they are written at that point. This is enough if
what a definition refers to does not itself refer to another. In a chain of definitions it is not:
a context keeps a definition that the next merge expands further, even one that merges nothing. So
an empty `@context` inside a node may change the statements of the node.

* `Reached`: the contexts that merges lead to; `Reached.mergeAll`, `Reached.noKeywords`.
* `Settled`: another expansion changes no definition; `settled_iff_sameMeaning`, `Settled.agrees`.
* `OneStep`: the definitions for which one expansion is enough; `OneStep.settled`.
* `merge_empty_iff`: when a merge of nothing changes nothing.
* `merge_empty_changes_chain`: a chain of definitions for which it does. -/

namespace GraphLedger.JsonLd

namespace Context

/-! ### Contexts that merges lead to -/

/-- **The contexts that merges lead to**: the empty one, and what applying an object leaves. -/
inductive Reached : Context → Prop
  | empty : Reached empty
  | apply {c c' : Context} {fs : Json.Fields} : Reached c → c.apply fs = .ok c' → Reached c'

mutual

theorem Reached.merge : ∀ {v : Json} {c c' : Context}, Reached c → c.merge v = .ok c' → Reached c'
  | .null, _, _, _, hmerge => by
    rw [Context.merge] at hmerge
    cases hmerge
    exact .empty
  | .array items, _, _, h, hmerge => by
    rw [Context.merge] at hmerge
    exact Reached.mergeAll h hmerge
  | .object fs, _, _, h, hmerge => by
    rw [Context.merge] at hmerge
    exact .apply h hmerge
  | .string _, _, _, _, hmerge | .bool _, _, _, _, hmerge | .int _, _, _, _, hmerge
  | .float _, _, _, _, hmerge => by
    rw [Context.merge] at hmerge
    cases hmerge

theorem Reached.mergeAll : ∀ {vs : List Json} {c c' : Context}, Reached c →
    c.mergeAll vs = .ok c' → Reached c'
  | [], _, _, h, hmerge => by
    rw [Context.mergeAll] at hmerge
    cases hmerge
    exact h
  | v :: vs, c, c', h, hmerge => by
    rw [Context.mergeAll] at hmerge
    split at hmerge
    · rename_i inner hinner
      exact Reached.mergeAll (Reached.merge h hinner) hmerge
    · cases hmerge

end

/-- The terms of a context are no keywords. -/
def NoKeywords (c : Context) : Prop := ∀ name, isKeyword name = true → c.term? name = none

theorem NoKeywords.withDefinition {c c' : Context} {name : String} {v : Json}
    (hname : isKeyword name = false) (h : c.NoKeywords) (hv : c.withDefinition name v = .ok c') :
    c'.NoKeywords := by
  intro other hother
  have hne : other ≠ name := fun he => by
    rw [he, hname] at hother
    cases hother
  rcases withDefinition_eq_ok hv with ⟨t, rfl⟩ | rfl
  · rw [term?_define, if_neg hne, h other hother]
  · rw [term?_undefine, if_neg hne, h other hother]

theorem Reached.noKeywords {c : Context} (h : Reached c) : c.NoKeywords := by
  induction h with
  | empty => exact fun _ _ => rfl
  | @apply c c' fs hreached hfs ih =>
    obtain ⟨d, hd, rfl⟩ := apply_eq_ok.mp hfs
    have hkeywords : (c.withKeywords fs).NoKeywords := fun name hname => by
      rw [term?_withKeywords, ih name hname]
    have hdefinitions : d.NoKeywords :=
      withDefinitions_induction NoKeywords.withDefinition hkeywords hd
    intro name hname
    rw [term?_resolved, hdefinitions name hname]
    rfl

/-- **The definitions of a context as they are written**, before their last expansion. -/
def Written (c d : Context) : Prop :=
  ∃ c₀ fs, Reached c₀ ∧ (c₀.withKeywords fs).withDefinitions fs = .ok d ∧ c = d.resolved

theorem Reached.written {c : Context} (h : Reached c) : ∃ d, c.Written d := by
  cases h with
  | empty => exact ⟨_, _, [], .empty, rfl, rfl⟩
  | @apply c₀ c fs hreached hfs =>
    obtain ⟨d, hd, rfl⟩ := apply_eq_ok.mp hfs
    exact ⟨d, c₀, fs, hreached, hd, rfl⟩

/-! ### Contexts that another expansion leaves alone -/

/-- An IRI with its prefix expanded, if it has one. -/
def expandOnce (c : Context) (iri : String) : String := (c.expandPrefixed? iri).getD iri

/-- **Settled contexts**: another expansion changes no definition whose name can be asked for, and
no datatype. -/
structure Settled (c : Context) : Prop where
  iri : ∀ {name t}, c.term? name = some t → ¬ Iri.IsBlankLabel name → c.expandOnce t.iri = t.iri
  datatype : ∀ {name d}, c.coercion? name = some (.datatype d) → c.expandTerm d = d

/-- **Contexts with the same meaning** expand and read all names alike. -/
structure SameMeaning (c c' : Context) : Prop where
  term : ∀ name, c.expandTerm name = c'.expandTerm name
  reference : ∀ name, c.expandReference name = c'.expandReference name
  coercion : ∀ name, c.coercion? name = c'.coercion? name

theorem Agrees.sameMeaning {c c' : Context} (h : c.Agrees c') : c.SameMeaning c' :=
  ⟨h.expandTerm, h.expandReference, h.coercions⟩

theorem Settled.coercion {c : Context} (h : c.Settled) (name : String) :
    (c.coercion? name).map c.resolveCoercion = c.coercion? name := by
  cases hcoercion : c.coercion? name with
  | none => rfl
  | some co =>
    cases co with
    | id => rfl
    | datatype d => exact congrArg (some ∘ Coercion.datatype) (h.datatype hcoercion)

theorem Settled.agrees {c : Context} (h : c.Settled) : c.Agrees c.resolved := by
  refine ⟨fun name hname => ?_, fun name => ?_, rfl, rfl⟩
  · rw [term?_resolved]
    cases hterm : c.term? name with
    | none => rfl
    | some t =>
      have hiri : (c.resolveTerm t).iri = t.iri := h.iri hterm hname
      have hcoercion : (c.resolveTerm t).coercion = t.coercion := by
        have hname := h.coercion name
        rw [coercion?, hterm] at hname
        rw [coercion_resolveTerm]
        exact hname
      have hterm : c.resolveTerm t = t := by
        cases t
        exact (Term.mk.injEq ..).mpr ⟨hiri, hcoercion⟩
      exact congrArg some hterm.symm
  · rw [coercion?_resolved, h.coercion]

/-- **Settled contexts** are those that have the same meaning after another expansion. -/
theorem settled_iff_sameMeaning {c : Context} (hc : c.NoKeywords) :
    c.SameMeaning c.resolved ↔ c.Settled := by
  constructor
  · intro h
    refine ⟨fun {name t} hterm hname => ?_, fun {name d} hcoercion => ?_⟩
    · have hreserved : isReserved name = false := by
        refine isReserved_eq_false_iff.mpr ⟨hname, Bool.eq_false_iff.mpr fun hkeyword => ?_⟩
        rw [hc name hkeyword] at hterm
        cases hterm
      have hresolved : c.resolved.term? name = some (c.resolveTerm t) := by
        rw [term?_resolved, hterm]
        rfl
      have hsame := h.term name
      rw [expandTerm_of_term hreserved hterm, expandTerm_of_term hreserved hresolved] at hsame
      exact hsame.symm
    · have hsame := h.coercion name
      rw [coercion?_resolved, hcoercion] at hsame
      exact (Coercion.datatype.inj (Option.some.inj hsame)).symm
  · exact fun h => h.agrees.sameMeaning

/-! ### Where one expansion is enough -/

/-- **Definitions that one expansion resolves**: after it, another one against the definitions as
they are written changes no IRI and no datatype. -/
def OneStep (d : Context) : Prop :=
  ∀ p ∈ d.terms, d.expandOnce (d.expandOnce p.2.iri) = d.expandOnce p.2.iri ∧
    ∀ type, p.2.coercion = some (.datatype type) →
      d.expandTerm (d.expandTerm type) = d.expandTerm type ∧
        d.expandOnce (d.expandTerm type) = d.expandTerm type

section Fixed
variable {d : Context} {iri : String}

theorem expandPrefixed?_resolved_eq_none (h : d.expandPrefixed? iri = none) :
    d.resolved.expandPrefixed? iri = none := by
  rw [Option.eq_none_iff_forall_ne_some] at h ⊢
  intro iri' hiri'
  obtain ⟨name, rest, t, hsplit, hrest, hterm, rfl⟩ := expandPrefixed?_eq_some_iff.mp hiri'
  rw [term?_resolved] at hterm
  obtain ⟨t', hterm', rfl⟩ := Option.map_eq_some_iff.mp hterm
  exact h _ (expandPrefixed?_eq_some_iff.mpr ⟨name, rest, t', hsplit, hrest, hterm', rfl⟩)

theorem expandPrefixed?_resolved_self (h : d.expandPrefixed? iri = some iri) :
    d.resolved.expandPrefixed? iri = some iri := by
  obtain ⟨name, rest, t, hsplit, hrest, hterm, hiri⟩ := expandPrefixed?_eq_some_iff.mp h
  have hcolon := Text.not_mem_of_splitAtFirst hsplit
  -- the term stands for its own name and the colon
  have hself : t.iri.toList = name ++ ':' :: [] := by
    have hlist := congrArg String.toList hiri
    rw [Text.splitAtFirst_eq_some hsplit, String.toList_append, String.toList_ofList] at hlist
    have happend : t.iri.toList ++ rest = (name ++ ':' :: []) ++ rest := by
      rw [← hlist, List.append_assoc]
      rfl
    exact List.append_cancel_right happend
  have honce : d.expandOnce t.iri = t.iri := by
    have hexpand : d.expandPrefixed? t.iri = some (t.iri ++ String.ofList []) := by
      refine expandPrefixed?_eq_some_iff.mpr ⟨name, [], t, ?_, rfl, hterm, rfl⟩
      rw [hself, Text.splitAtFirst_append hcolon]
    rw [expandOnce, hexpand]
    exact String.append_empty
  refine expandPrefixed?_eq_some_iff.mpr ⟨name, rest, d.resolveTerm t, hsplit, hrest, ?_, ?_⟩
  · rw [term?_resolved, hterm]
    rfl
  · rw [show (d.resolveTerm t).iri = t.iri from honce]
    exact hiri

theorem expandOnce_resolved (h : d.expandOnce iri = iri) : d.resolved.expandOnce iri = iri := by
  unfold expandOnce at h ⊢
  cases hexpanded : d.expandPrefixed? iri with
  | none => rw [expandPrefixed?_resolved_eq_none hexpanded]; rfl
  | some iri' =>
    rw [hexpanded] at h
    have hself : d.expandPrefixed? iri = some iri := hexpanded.trans (congrArg some h)
    rw [expandPrefixed?_resolved_self hself]
    rfl

theorem expandTerm_resolved (hterm : d.expandTerm iri = iri) (h : d.expandOnce iri = iri) :
    d.resolved.expandTerm iri = iri := by
  cases hreserved : isReserved iri with
  | true => exact expandTerm_of_reserved hreserved
  | false =>
    cases ht : d.term? iri with
    | some t =>
      have hiri : t.iri = iri := (expandTerm_of_term hreserved ht).symm.trans hterm
      have hresolved : d.resolved.term? iri = some (d.resolveTerm t) := by
        rw [term?_resolved, ht]
        rfl
      rw [expandTerm_of_term hreserved hresolved]
      show d.expandOnce t.iri = iri
      rw [hiri, h]
    | none =>
      have hresolved : d.resolved.term? iri = none := by
        rw [term?_resolved, ht]
        rfl
      cases hexpanded : d.expandPrefixed? iri with
      | some iri' =>
        unfold expandOnce at h
        rw [hexpanded] at h
        have hself : d.expandPrefixed? iri = some iri := hexpanded.trans (congrArg some h)
        unfold expandTerm
        rw [hreserved, hresolved, expandPrefixed?_resolved_self hself]
        rfl
      | none =>
        -- nothing but the vocabulary is left, which is the same
        unfold expandTerm at hterm ⊢
        rw [hreserved, ht, hexpanded] at hterm
        rw [hreserved, hresolved, expandPrefixed?_resolved_eq_none hexpanded]
        exact hterm

end Fixed

theorem mem_of_term? {c : Context} {name : String} {t : Term} (h : c.term? name = some t) :
    (name, t) ∈ c.terms := by
  obtain ⟨before, after, hterms, -⟩ := List.lookup_eq_some_iff.mp h
  rw [hterms]
  exact List.mem_append_right _ List.mem_cons_self

/-- **One expansion is enough** for definitions that it resolves. -/
theorem OneStep.settled {d : Context} (h : d.OneStep) : d.resolved.Settled := by
  refine ⟨fun {name t} hterm _ => ?_, fun {name type} hcoercion => ?_⟩
  · rw [term?_resolved] at hterm
    obtain ⟨t', ht', rfl⟩ := Option.map_eq_some_iff.mp hterm
    exact expandOnce_resolved (h _ (mem_of_term? ht')).1
  · rw [coercion?_resolved] at hcoercion
    obtain ⟨co, hco, hresolve⟩ := Option.map_eq_some_iff.mp hcoercion
    obtain ⟨t, ht, hcoercion'⟩ := Option.bind_eq_some_iff.mp hco
    cases co with
    | id => cases hresolve
    | datatype type' =>
      cases hresolve
      obtain ⟨hterm, honce⟩ := (h _ (mem_of_term? ht)).2 type' hcoercion'
      exact expandTerm_resolved hterm honce

end Context

/-! ### Merging nothing -/

open Context in
/-- **A merge of nothing** into a context that merges led to expands its definitions once more. The
context has the same meaning after it exactly if it is settled, and then no statement of a node or
value depends on whether there is an empty `@context` inside. It is settled if one expansion is
enough for its definitions as they are written. -/
theorem merge_empty_iff {vs : List Json} {c : Context} (h : Context.empty.mergeAll vs = .ok c) :
    (∃ c', c.merge (.object []) = .ok c' ∧ (c.SameMeaning c' ↔ c.Settled)) ∧
    (c.Settled → ∀ fs : Json.Fields, Json.Fields.get? fs "@context" = some (.object []) →
      ofNode c (withoutContext fs) = ofNode c fs ∧ ∀ (p : Place) (coercion : Option Coercion),
        ofValue c p coercion (.object (withoutContext fs)) = ofValue c p coercion (.object fs)) ∧
    (∃ d, c.Written d) ∧ ∀ d, c.Written d → d.OneStep → c.Settled := by
  have hreached : Reached c := Reached.empty.mergeAll h
  have hmerge : c.merge (.object []) = .ok c.resolved := by
    rw [Context.merge]
    rfl
  refine ⟨⟨_, hmerge, settled_iff_sameMeaning hreached.noKeywords⟩, fun hsettled fs hfs => ?_,
    hreached.written, ?_⟩
  · exact ⟨ofNode_withoutContext hfs hmerge hsettled.agrees,
      ofValue_withoutContext hfs hmerge hsettled.agrees⟩
  · rintro d ⟨c₀, fs, -, -, rfl⟩ hd
    exact hd.settled

/-- A context with two prefixes, a name and a typed name. -/
def flatContext : Json.Fields :=
  [("born", .object [("@id", .string "ex:born"), ("@type", .string "xsd:date")]),
    ("ex", .string "http://example.org/"), ("name", .string "ex:name"),
    ("xsd", .string "http://www.w3.org/2001/XMLSchema#")]

/-- Its definitions as they are written. -/
def flatDefinitions : Context :=
  ⟨[("xsd", ⟨"http://www.w3.org/2001/XMLSchema#", none⟩), ("name", ⟨"ex:name", none⟩),
    ("ex", ⟨"http://example.org/", none⟩), ("born", ⟨"ex:born", some (.datatype "xsd:date")⟩)],
    none, none⟩

theorem oneStep_flatDefinitions : flatDefinitions.OneStep := by
  intro p hp
  rcases List.mem_cons.mp hp with rfl | hp
  · exact ⟨by decide +kernel, fun _ h => nomatch h⟩
  rcases List.mem_cons.mp hp with rfl | hp
  · exact ⟨by decide +kernel, fun _ h => nomatch h⟩
  rcases List.mem_cons.mp hp with rfl | hp
  · exact ⟨by decide +kernel, fun _ h => nomatch h⟩
  rw [List.mem_singleton.mp hp]
  refine ⟨by decide +kernel, fun type h => ?_⟩
  cases h
  exact ⟨by decide +kernel, by decide +kernel⟩

/-- Names behind prefixes are resolved by one merge. -/
theorem merge_empty_iff_of_prefixes :
    let c := flatDefinitions.resolved
    Context.empty.mergeAll [.object flatContext] = .ok c ∧
      (∃ c', c.merge (.object []) = .ok c' ∧ c.SameMeaning c') ∧
      ofNode c [("@id", .string "ex:1"), ("name", .string "Bob")] =
        ofNode c [("@context", .object []), ("@id", .string "ex:1"), ("name", .string "Bob")] := by
  have hc : Context.empty.mergeAll [.object flatContext] = .ok flatDefinitions.resolved := by
    decide +kernel
  obtain ⟨⟨c', hmerge, hsame⟩, hnodes, -, honce⟩ := merge_empty_iff hc
  have hwritten : flatDefinitions.resolved.Written flatDefinitions :=
    ⟨_, flatContext, .empty, by decide +kernel, rfl⟩
  have hsettled := honce _ hwritten oneStep_flatDefinitions
  exact ⟨hc, ⟨c', hmerge, hsame.mpr hsettled⟩, (hnodes hsettled [("@context", .object []),
    ("@id", .string "ex:1"), ("name", .string "Bob")] rfl).1⟩

/-- A chain of definitions, and a datatype that is a name behind a prefix: the first merge leaves
prefixes that the second expands. -/
theorem merge_empty_changes_chain :
    ∃ c c', Context.empty.mergeAll [.object [("a", .string "b:x"), ("b", .string "c:y"),
        ("born", .object [("@id", .string "urn:born"), ("@type", .string "date")]),
        ("c", .string "http://e.org/"), ("date", .string "c:date")]] = .ok c ∧
      c.merge (.object []) = .ok c' ∧
      c.expandTerm "a" = "c:yx" ∧ c'.expandTerm "a" = "http://e.org/yx" ∧
      c.coercion? "born" = some (.datatype "c:date") ∧
      c'.coercion? "born" = some (.datatype "http://e.org/date") := by
  refine ⟨⟨[("date", ⟨"http://e.org/date", none⟩), ("c", ⟨"http://e.org/", none⟩),
    ("born", ⟨"urn:born", some (.datatype "c:date")⟩), ("b", ⟨"http://e.org/y", none⟩),
    ("a", ⟨"c:yx", none⟩)], none, none⟩, _, by decide +kernel, rfl, by decide +kernel,
    by decide +kernel, by decide +kernel, by decide +kernel⟩

end GraphLedger.JsonLd
