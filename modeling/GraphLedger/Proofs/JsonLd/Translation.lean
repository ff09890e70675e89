import GraphLedger.Proofs.JsonLd.Objects
import Mathlib.Data.List.Forall2

/-! # One statement for each leaf

The translation of a node walks the node as its leaves are listed: what is reached under a property
through arrays, lists and sets, the objects in a graph, and the nodes in these. The statements that
it makes are those of the leaves, one each and in their order; none is dropped, doubled or added.
By a mutual induction along the walk, each part of it makes the statements of its own leaves.

A value that is a list and a set at once is read as a list, so what is in the set is no leaf.

* `Translates`: what a translation makes; `Translates.append`.
* `translates_value`, `translates_fields`, `translates_children`: so it is for each part of a node.
* `one_statement_per_leaf`: so it is for a node, in each context and graph. -/

namespace GraphLedger.JsonLd

section Inside
variable {c₀ : Context} {graph₀ : String} {around : List Level} {c c' : Context} {s s' : Skolem}

/-! ### One statement for each leaf -/

variable (c₀ graph₀) in
/-- **What a translation makes**: the statements of leaves, one each and in their order, for some
names of the objects. -/
structure Translates (s s' : Skolem) (leaves : Names → List Leaf) (sts : List Statement) :
    Prop where
  later : s.Extends s'
  made : ∃ names : Names, names.Fresh s.next s'.next ∧
    List.Forall₂ (Leaf.Makes c₀ graph₀ s') (leaves names) sts

namespace Translates
variable {s₁ : Skolem} {leaves rest : Names → List Leaf} {sts more : List Statement}

theorem nil : Translates c₀ graph₀ s s (fun _ => []) [] :=
  ⟨.refl s, .nothing, .nothing, .nil⟩

theorem single {leaf : Leaf} {st : Statement} (hs : s.Extends s')
    (h : leaf.Makes c₀ graph₀ s' st) : Translates c₀ graph₀ s s' (fun _ => [leaf]) [st] :=
  ⟨hs, .nothing, .nothing, .cons h .nil⟩

theorem append (h : Translates c₀ graph₀ s s₁ leaves sts)
    (h' : Translates c₀ graph₀ s₁ s' rest more) :
    Translates c₀ graph₀ s s' (fun names => leaves names.first ++ rest names.rest)
      (sts ++ more) := by
  obtain ⟨first, hfresh, hfirst⟩ := h.made
  obtain ⟨last, hfresh', hlast⟩ := h'.made
  exact ⟨h.later.trans h'.later, .both first last, hfresh.both hfresh' h.later.next h'.later.next,
    List.rel_append (hfirst.imp fun _ _ => h'.later.makes) hlast⟩

theorem congr (h : Translates c₀ graph₀ s s' leaves sts)
    (hl : ∀ names, leaves names = rest names) : Translates c₀ graph₀ s s' rest sts := by
  obtain ⟨names, hfresh, hmade⟩ := h.made
  exact ⟨h.later, names, hfresh, hl names ▸ hmade⟩

end Translates

theorem valueStatement?_place {p : Place} {coercion : Option Coercion} {v : Json} {st : Statement}
    (h : valueStatement? c s p coercion v = some st) :
    st.subject = p.subject ∧ st.predicate = p.predicate ∧ st.graph = p.graph := by
  rcases valueStatement?_eq h with ⟨iri, rfl⟩ | ⟨x, dataType, language, rfl, -⟩ <;>
    exact ⟨rfl, rfl, rfl⟩

theorem Inside.value (hin : Inside c₀ graph₀ around c s) (key : String) (hs : s.Extends s')
    {v : Json} {st : Statement}
    (hv : valueStatement? c s' (placeIn graph₀ around (c.expandTerm key)) (c.coercion? key) v =
      some st) :
    Translates c₀ graph₀ s s' (fun _ => [.value around key v]) [st] := by
  obtain ⟨hsubject, hpredicate, hgraph⟩ := valueStatement?_place hv
  refine .single hs ⟨(hin.later hs).assigned, hsubject, hgraph, c, hin.context, hpredicate, ?_⟩
  rw [hsubject, hpredicate, hgraph]
  exact hv

theorem Inside.link {fs : Json.Fields} {name : Name} {iri : String} (key : String)
    (hin : Inside c₀ graph₀ around c s) (hnested : Inside c₀ graph₀ (⟨fs, name⟩ :: around) c' s)
    (hname : name.iri = iri) :
    Leaf.Makes c₀ graph₀ s (.node around key ⟨fs, name⟩)
      ((placeIn graph₀ around (c.expandTerm key)).link iri) := by
  subst hname
  exact ⟨hnested.assigned, rfl, rfl, c, hin.context, rfl, rfl⟩

theorem Inside.types (hin : Inside c₀ graph₀ around c s) : ∀ (vs : List Json)
    {sts : List Statement},
    typeStatements c (subjectIn around) (graphIn graph₀ around) vs = .ok sts →
      Translates c₀ graph₀ s s (fun _ => vs.map (.type around)) sts
  | [], sts, h => by
    cases h
    exact .nil
  | .string t :: vs, sts, h => by
    rw [typeStatements] at h
    cases hrest : typeStatements c (subjectIn around) (graphIn graph₀ around) vs with
    | error e => rw [hrest] at h; cases h
    | ok rest =>
      rw [hrest] at h
      cases h
      have hfirst : Leaf.Makes c₀ graph₀ s (.type around (.string t))
          (Statement.ofIri (subjectIn around) Vocabulary.rdfType (c.expandTerm t)
            (graphIn graph₀ around)) :=
        ⟨hin.assigned, rfl, rfl, c, hin.context, rfl, rfl⟩
      exact (Translates.single (.refl s) hfirst).append (hin.types vs hrest)
  | .null :: vs, sts, h | .bool b :: vs, sts, h | .int n :: vs, sts, h | .float x :: vs, sts, h
  | .array items :: vs, sts, h | .object fs :: vs, sts, h => by cases h

theorem Inside.object (hin : Inside c₀ graph₀ around c s) {fs : Json.Fields} {h : Header}
    {s₁ : Skolem} {sts : List Statement}
    (hheader : Gives (JsonLd.header c (graphIn graph₀ around) fs) s h s₁)
    (hfields : Gives (ofFields h.context h.iri h.graph fs) s₁ sts s')
    (ih : ∀ {name : Name}, Inside c₀ graph₀ (⟨fs, name⟩ :: around) h.context s₁ →
      Gives (ofFields h.context name.iri (graphIn graph₀ (⟨fs, name⟩ :: around)) fs) s₁ sts s' →
      Translates c₀ graph₀ s₁ s' (fun names => fieldLeaves (⟨fs, name⟩ :: around) names fs) sts) :
    s.Extends s' ∧ ∃ name names, name.iri = h.iri ∧
      Inside c₀ graph₀ (⟨fs, name⟩ :: around) h.context s' ∧
      (Names.object name names).Fresh s.next s'.next ∧
      List.Forall₂ (Leaf.Makes c₀ graph₀ s') (fieldLeaves (⟨fs, name⟩ :: around) names fs) sts := by
  obtain ⟨name, hname, hfresh, hs, hnested, hgraph⟩ := hin.header hheader
  rw [← hname, ← hgraph] at hfields
  have htr := ih hnested hfields
  obtain ⟨names, hfresh', hmade⟩ := htr.made
  exact ⟨hs.trans htr.later, name, names, hname, hnested.later htr.later,
    hfresh.object hfresh' hs.next htr.later.next, hmade⟩

theorem Inside.child (hin : Inside c₀ graph₀ around c s) {fs : Json.Fields} {h : Header}
    {s₁ : Skolem} {sts : List Statement}
    (hheader : Gives (JsonLd.header c (graphIn graph₀ around) fs) s h s₁)
    (hfields : Gives (ofFields h.context h.iri h.graph fs) s₁ sts s')
    (ih : ∀ {name : Name}, Inside c₀ graph₀ (⟨fs, name⟩ :: around) h.context s₁ →
      Gives (ofFields h.context name.iri (graphIn graph₀ (⟨fs, name⟩ :: around)) fs) s₁ sts s' →
      Translates c₀ graph₀ s₁ s' (fun names => fieldLeaves (⟨fs, name⟩ :: around) names fs) sts) :
    Translates c₀ graph₀ s s'
      (fun names => fieldLeaves (⟨fs, names.name⟩ :: around) names.inside fs) sts := by
  obtain ⟨hs, name, names, -, -, hfresh, hmade⟩ := hin.object hheader hfields ih
  exact ⟨hs, .object name names, hfresh, hmade⟩

mutual

theorem translates_value (key : String) : ∀ (v : Json) {around : List Level} {c : Context}
    {s s' : Skolem} {sts : List Statement}, Inside c₀ graph₀ around c s →
    Gives (ofValue c (placeIn graph₀ around (c.expandTerm key)) (c.coercion? key) v) s sts s' →
    Translates c₀ graph₀ s s' (fun names => valueLeaves around key names v) sts
  | .null, around, c, s, s', sts, hin, h => by
    rw [ofValue] at h
    obtain ⟨rfl, rfl⟩ := gives_pure.mp h
    exact .nil
  | .bool b, around, c, s, s', sts, hin, h => by
    rw [ofValue] at h
    obtain ⟨rfl, rfl⟩ := gives_pure.mp h
    exact hin.value key (.refl s') rfl
  | .int n, around, c, s, s', sts, hin, h => by
    rw [ofValue] at h
    obtain ⟨rfl, rfl⟩ := gives_pure.mp h
    exact hin.value key (.refl s') rfl
  | .float x, around, c, s, s', sts, hin, h => by
    rw [ofValue] at h
    obtain ⟨rfl, rfl⟩ := gives_pure.mp h
    exact hin.value key (.refl s') rfl
  | .string x, around, c, s, s', sts, hin, h => by
    cases hco : c.coercion? key with
    | none =>
      rw [hco] at h
      rw [ofValue] at h
      obtain ⟨rfl, rfl⟩ := gives_pure.mp h
      exact hin.value key (.refl s') (by rw [hco]; rfl)
    | some co =>
      rw [hco] at h
      cases co with
      | datatype d =>
        rw [ofValue] at h
        obtain ⟨rfl, rfl⟩ := gives_pure.mp h
        exact hin.value key (.refl s') (by rw [hco]; rfl)
      | id =>
        rw [ofValue] at h
        obtain ⟨iri, s₁, hiri, hpure⟩ := gives_bind.mp h
        obtain ⟨rfl, rfl⟩ := gives_pure.mp hpure
        obtain ⟨hs, hiri⟩ := gives_nodeIri hiri
        refine hin.value key hs ?_
        rw [hco, valueStatement?, hiri]
        rfl
  | .array items, around, c, s, s', sts, hin, h => by
    rw [ofValue] at h
    exact translates_items key items hin h
  | .object fs, around, c, s, s', sts, hin, h => by
    rw [ofValue] at h
    cases hvalue : Json.Fields.get? fs "@value" with
    | some literal =>
      rw [hvalue] at h
      obtain ⟨st, s₁, hlift, hpure⟩ := gives_bind.mp h
      obtain ⟨rfl, rfl⟩ := gives_pure.mp hpure
      obtain ⟨hst, rfl⟩ := gives_lift.mp hlift
      refine (hin.value key (.refl _) (v := .object fs) ?_).congr fun names => ?_
      · rw [valueStatement?, hvalue]
        dsimp only
        rw [hst]
        rfl
      · rw [valueLeaves, hvalue]
    | none =>
      rw [hvalue] at h
      dsimp only at h
      by_cases hlist : Json.Fields.has fs "@list" = true
      · rw [if_pos hlist] at h
        refine (translates_key key "@list" fs hin h).congr fun names => ?_
        rw [valueLeaves, hvalue]
        exact (if_pos hlist).symm
      rw [if_neg hlist] at h
      by_cases hset : Json.Fields.has fs "@set" = true
      · rw [if_pos hset] at h
        refine (translates_key key "@set" fs hin h).congr fun names => ?_
        rw [valueLeaves, hvalue]
        exact ((if_neg hlist).trans (if_pos hset)).symm
      rw [if_neg hset] at h
      by_cases href : isReference fs = true
      · rw [if_pos href] at h
        obtain ⟨iri, s₁, hiri, hpure⟩ := gives_bind.mp h
        obtain ⟨rfl, rfl⟩ := gives_pure.mp hpure
        obtain ⟨hs, hiri⟩ := gives_nodeIri hiri
        refine (hin.value key hs (v := .object fs) ?_).congr fun names => ?_
        · rw [valueStatement?, hvalue]
          dsimp only
          rw [hiri]
          rfl
        · rw [valueLeaves, hvalue]
          exact ((if_neg hlist).trans ((if_neg hset).trans (if_pos href))).symm
      · rw [if_neg href] at h
        obtain ⟨hd, s₁, hheader, hbody⟩ := gives_bind.mp h
        obtain ⟨inner, s₂, hfields, hpure⟩ := gives_bind.mp hbody
        obtain ⟨rfl, rfl⟩ := gives_pure.mp hpure
        obtain ⟨hs, name, names, hname, hnested, hfresh, hmade⟩ := hin.object hheader hfields
          fun hnested hfields => translates_fields fs hnested hfields
        refine ⟨hs, .object name names, hfresh, ?_⟩
        rw [valueLeaves, hvalue]
        dsimp only
        rw [if_neg hlist, if_neg hset, if_neg href]
        exact List.rel_append hmade (.cons ((hin.later hs).link key hnested hname) .nil)

theorem translates_items (key : String) : ∀ (vs : List Json) {around : List Level} {c : Context}
    {s s' : Skolem} {sts : List Statement}, Inside c₀ graph₀ around c s →
    Gives (ofItems c (placeIn graph₀ around (c.expandTerm key)) (c.coercion? key) vs) s sts s' →
    Translates c₀ graph₀ s s' (fun names => itemLeaves around key names vs) sts
  | [], around, c, s, s', sts, hin, h => by
    rw [ofItems] at h
    obtain ⟨rfl, rfl⟩ := gives_pure.mp h
    exact .nil
  | v :: vs, around, c, s, s', sts, hin, h => by
    rw [ofItems] at h
    obtain ⟨first, s₁, rest, hfirst, hrest, rfl⟩ := gives_append.mp h
    have htr := translates_value key v hin hfirst
    exact htr.append (translates_items key vs (hin.later htr.later) hrest)

theorem translates_key (key keyword : String) : ∀ (fs : List (String × Json))
    {around : List Level} {c : Context} {s s' : Skolem} {sts : List Statement},
    Inside c₀ graph₀ around c s →
    Gives (ofKey c (placeIn graph₀ around (c.expandTerm key)) (c.coercion? key) keyword fs) s sts
      s' →
    Translates c₀ graph₀ s s' (fun names => keyLeaves around key names keyword fs) sts
  | [], around, c, s, s', sts, hin, h => by
    rw [ofKey] at h
    obtain ⟨rfl, rfl⟩ := gives_pure.mp h
    exact .nil
  | (k, v) :: fs, around, c, s, s', sts, hin, h => by
    rw [ofKey] at h
    by_cases hk : k = keyword
    · rw [if_pos hk] at h
      refine (translates_value key v hin h).congr fun names => ?_
      rw [keyLeaves]
      exact (if_pos hk).symm
    · rw [if_neg hk] at h
      refine (translates_key key keyword fs hin h).congr fun names => ?_
      rw [keyLeaves]
      exact (if_neg hk).symm

theorem translates_fields : ∀ (fs : List (String × Json)) {around : List Level} {c : Context}
    {s s' : Skolem} {sts : List Statement}, Inside c₀ graph₀ around c s →
    Gives (ofFields c (subjectIn around) (graphIn graph₀ around) fs) s sts s' →
    Translates c₀ graph₀ s s' (fun names => fieldLeaves around names fs) sts
  | [], around, c, s, s', sts, hin, h => by
    rw [ofFields] at h
    obtain ⟨rfl, rfl⟩ := gives_pure.mp h
    exact .nil
  | (k, v) :: fs, around, c, s, s', sts, hin, h => by
    rw [ofFields] at h
    by_cases htype : k = "@type"
    · subst htype
      rw [if_pos rfl] at h
      obtain ⟨first, s₁, rest, hfirst, hrest, rfl⟩ := gives_append.mp h
      obtain ⟨htypes, rfl⟩ := gives_lift.mp hfirst
      exact (hin.types v.asItems htypes).append (translates_fields fs hin hrest)
    rw [if_neg htype] at h
    by_cases hgraph : k = "@graph"
    · subst hgraph
      rw [if_pos rfl] at h
      obtain ⟨first, s₁, rest, hfirst, hrest, rfl⟩ := gives_append.mp h
      have htr := translates_children v hin hfirst
      exact htr.append (translates_fields fs (hin.later htr.later) hrest)
    rw [if_neg hgraph] at h
    by_cases hkeyword : isKeyword k = true
    · rw [if_pos hkeyword] at h
      obtain ⟨first, s₁, rest, hfirst, hrest, rfl⟩ := gives_append.mp h
      obtain ⟨rfl, rfl⟩ := gives_pure.mp hfirst
      refine (Translates.append .nil (translates_fields fs hin hrest)).congr fun names => ?_
      rw [fieldLeaves, if_neg htype, if_neg hgraph, if_pos hkeyword]
    · rw [if_neg hkeyword] at h
      obtain ⟨first, s₁, rest, hfirst, hrest, rfl⟩ := gives_append.mp h
      have htr := translates_value k v hin hfirst
      refine (htr.append (translates_fields fs (hin.later htr.later) hrest)).congr
        fun names => ?_
      rw [fieldLeaves, if_neg htype, if_neg hgraph, if_neg hkeyword]

theorem translates_children : ∀ (v : Json) {around : List Level} {c : Context}
    {s s' : Skolem} {sts : List Statement}, Inside c₀ graph₀ around c s →
    Gives (ofChildren c (graphIn graph₀ around) v) s sts s' →
    Translates c₀ graph₀ s s' (fun names => childLeaves around names v) sts
  | .array items, around, c, s, s', sts, hin, h => by
    rw [ofChildren] at h
    exact translates_childList items hin h
  | .object fs, around, c, s, s', sts, hin, h => by
    rw [ofChildren] at h
    obtain ⟨hd, s₁, hheader, hfields⟩ := gives_bind.mp h
    exact hin.child hheader hfields fun hnested hfields => translates_fields fs hnested hfields
  | .null, around, c, s, s', sts, hin, h | .bool b, around, c, s, s', sts, hin, h
  | .int n, around, c, s, s', sts, hin, h | .float x, around, c, s, s', sts, hin, h
  | .string x, around, c, s, s', sts, hin, h => absurd h not_gives_throw

theorem translates_childList : ∀ (vs : List Json) {around : List Level} {c : Context}
    {s s' : Skolem} {sts : List Statement}, Inside c₀ graph₀ around c s →
    Gives (ofChildList c (graphIn graph₀ around) vs) s sts s' →
    Translates c₀ graph₀ s s' (fun names => childListLeaves around names vs) sts
  | [], around, c, s, s', sts, hin, h => by
    rw [ofChildList] at h
    obtain ⟨rfl, rfl⟩ := gives_pure.mp h
    exact .nil
  | .object fs :: vs, around, c, s, s', sts, hin, h => by
    rw [ofChildList] at h
    obtain ⟨hd, s₁, hheader, hbody⟩ := gives_bind.mp h
    obtain ⟨first, s₂, rest, hfirst, hrest, rfl⟩ := gives_append.mp hbody
    have htr := hin.child hheader hfirst fun hnested hfields =>
      translates_fields fs hnested hfields
    exact htr.append (translates_childList vs (hin.later htr.later) hrest)
  | .null :: vs, around, c, s, s', sts, hin, h | .bool b :: vs, around, c, s, s', sts, hin, h
  | .int n :: vs, around, c, s, s', sts, hin, h | .float x :: vs, around, c, s, s', sts, hin, h
  | .string x :: vs, around, c, s, s', sts, hin, h
  | .array items :: vs, around, c, s, s', sts, hin, h => absurd h not_gives_throw

end

end Inside

/-! ### Datatypes and languages -/

/-- Whether the datatype and the language of a statement fit: an IRI has neither, and what has a
language is a text in it. -/
structure Typed (st : Statement) : Prop where
  iri : st.object.isIri = true → st.dataType = none ∧ st.language = none
  language : ∀ l, st.language = some l → st.dataType = some Vocabulary.langString

theorem typed_link (p : Place) (iri : String) : Typed (p.link iri) :=
  ⟨fun _ => ⟨rfl, rfl⟩, fun _ h => by cases h⟩

theorem typed_valueStatement? {c : Context} {s : Skolem} {p : Place} {coercion : Option Coercion}
    {v : Json} {st : Statement} (h : valueStatement? c s p coercion v = some st) : Typed st := by
  rcases valueStatement?_eq h with ⟨iri, rfl⟩ | ⟨x, dataType, language, rfl, hlanguage⟩
  · exact typed_link p iri
  · refine ⟨fun h => absurd h Bool.false_ne_true, fun l hl => hlanguage ?_⟩
    rw [show language = some l from hl, Option.isSome_some]

theorem Leaf.Makes.typed {c : Context} {graph : String} {s : Skolem} {leaf : Leaf} {st : Statement}
    (h : leaf.Makes c graph s st) : Typed st := by
  obtain ⟨inner, -, -, hst⟩ := h.predicate
  cases leaf with
  | type around entry =>
    obtain ⟨t, -, hlink⟩ := Option.map_eq_some_iff.mp hst
    exact hlink ▸ typed_link _ _
  | value around key v => exact typed_valueStatement? hst
  | node around key nested =>
    exact Option.some.inj hst ▸ typed_link _ _

/-! ### Nodes -/

/-- The statements of a node in a context and graph. -/
def ofNodeIn (c : Context) (graph : String) (fs : Json.Fields) : Naming (List Statement) := do
  let h ← header c graph fs
  ofFields h.context h.iri h.graph fs

theorem ofChildren_object (c : Context) (graph : String) (fs : Json.Fields) :
    ofChildren c graph (.object fs) = ofNodeIn c graph fs := by
  rw [ofChildren, ofNodeIn]

theorem translates_node {c : Context} {graph : String} {fs : Json.Fields} {s s' : Skolem}
    {sts : List Statement} (h : Gives (ofNodeIn c graph fs) s sts s') :
    Translates c graph s s' (fun names => nodeLeaves names fs) sts := by
  rw [← ofChildren_object] at h
  have hin : Inside c graph [] c s := ⟨rfl, trivial⟩
  exact translates_children (.object fs) hin h

/-- **One statement for each leaf.** Whatever the context and the graph are, the statements of a
node are those of its leaves, one each and in their order. No number names two objects, and the
datatypes and languages fit. -/
theorem one_statement_per_leaf {c : Context} {graph : String} {fs : Json.Fields} {s s' : Skolem}
    {sts : List Statement} (h : Gives (ofNodeIn c graph fs) s sts s') :
    (∃ names : Names, names.Fresh s.next s'.next ∧
      List.Forall₂ (Leaf.Makes c graph s') (nodeLeaves names fs) sts) ∧
    ∀ st ∈ sts, Typed st := by
  obtain ⟨names, hfresh, hmade⟩ := (translates_node h).made
  have htyped : List.Forall₂ (fun st leaf => Typed st ∧ Leaf.Makes c graph s' leaf st) sts
      (nodeLeaves names fs) := (hmade.imp fun _ _ hleaf => ⟨hleaf.typed, hleaf⟩).flip
  exact ⟨⟨names, hfresh, hmade⟩, ((List.forall₂_and_left _ _).mp htyped).1⟩

/-- A node with a type, a reference, nested lists, a node without an IRI and a graph of its own. -/
def mixed : Json.Fields :=
  [("@graph", .object [("@graph", .array [.object [("@id", .string "_:b"), ("urn:r", .int 1)]]),
      ("@id", .string "urn:g")]),
    ("@id", .string "urn:s"),
    ("@type", .string "urn:T"),
    ("urn:p", .array [.object [("@list", .array [.string "a", .null])],
      .object [("@id", .string "_:b")],
      .object [("urn:q", .object [("@language", .string "en"), ("@value", .string "x")])]])]

/-- The label of the node and the nodes without an IRI get names. -/
def mixedNames : Skolem := ⟨2, [("b", Skolem.minted 0)]⟩

/-- The statements of the node. -/
def mixedStatements : List Statement :=
  [Statement.ofLiteral (Skolem.minted 0) "urn:r" "1" "urn:g" (some Vocabulary.xsdInteger) none,
    Statement.ofIri "urn:s" Vocabulary.rdfType "urn:T" "",
    Statement.ofLiteral "urn:s" "urn:p" "a" "" none none,
    Statement.ofIri "urn:s" "urn:p" (Skolem.minted 0) "",
    Statement.ofLiteral (Skolem.minted 1) "urn:q" "x" "" (some Vocabulary.langString) (some "en"),
    Statement.ofIri "urn:s" "urn:p" (Skolem.minted 1) ""]

theorem one_statement_per_leaf_of_mixed :
    Gives (ofNodeIn Context.empty "" mixed) (Skolem.start 0) mixedStatements mixedNames ∧
      (∃ names : Names, names.Fresh 0 2 ∧
        List.Forall₂ (Leaf.Makes Context.empty "" mixedNames) (nodeLeaves names mixed)
          mixedStatements) ∧
      ∀ st ∈ mixedStatements, Typed st := by
  have h : Gives (ofNodeIn Context.empty "" mixed) (Skolem.start 0) mixedStatements mixedNames := by
    rfl
  exact ⟨h, one_statement_per_leaf h⟩

/-! ### Lists that are sets -/

/-- Whether a value is reached in another through arrays, lists and sets. -/
inductive Reaches : Json → Json → Prop where
  | here (v : Json) : Reaches v v
  | item {items : List Json} {v w : Json} (hv : v ∈ items) (h : Reaches v w) :
    Reaches (.array items) w
  | list {fs : Json.Fields} {v w : Json} (hv : Json.Fields.get? fs "@list" = some v)
    (h : Reaches v w) : Reaches (.object fs) w
  | set {fs : Json.Fields} {v w : Json} (hv : Json.Fields.get? fs "@set" = some v)
    (h : Reaches v w) : Reaches (.object fs) w

/-- A value that is a list and a set. -/
def listAndSet : Json :=
  .object [("@list", .array [.string "a"]), ("@set", .array [.string "b"])]

/-- What is in the set of a value that is a list and a set is reached under a property, but makes no
statement. -/
theorem reached_without_statement :
    isKeyword "urn:p" = false ∧ Reaches listAndSet (.string "b") ∧
      Gives (ofNodeIn Context.empty "" [("@id", .string "urn:s"), ("urn:p", listAndSet)])
        (Skolem.start 0) [Statement.ofLiteral "urn:s" "urn:p" "a" "" none none]
        (Skolem.start 0) ∧
      ∀ st ∈ [Statement.ofLiteral "urn:s" "urn:p" "a" "" none none], st.object.text ≠ "b" := by
  refine ⟨by decide, .set rfl (.item (List.mem_singleton.mpr rfl) (.here _)), rfl, fun st hst => ?_⟩
  rw [List.mem_singleton.mp hst]
  decide

end GraphLedger.JsonLd
