import GraphLedger.Proofs.Config.Runnable
import GraphLedger.Proofs.JsonLd.Expansion
import GraphLedger.Shape.ShapeSet
import GraphLedger.Shape.Validation

/-! # Schemas under a context

The IRIs of a schema are expanded against the context of the request, which its sender writes. An
IRI that is absolute already is no exception: a term may have the name of the whole IRI, or that of
its scheme, and then the context gives it another meaning. That is all that a context can do to such
a schema. If it has no such term, or the term stands for the same, the schema means what it says.

* `expandTerm_eq_self_iff`: when a context leaves an absolute IRI as it is.
* `Schema.compile_congr`: what a schema is compiled to depends on the meaning of its IRIs only.
* `report_independent_of_context`: contexts that redefine no IRI of a schema make no difference.
* `report_depends_on_context`: contexts that do redefine one let a violation pass. -/

namespace GraphLedger

/-! ### Absolute IRIs -/

namespace JsonLd.Context

/-- **Whether a context redefines an IRI**: a term with the name of the whole IRI stands for another
one, or if there is no such term, a term with the name of its scheme makes it another one. What has
an authority is not taken for the name of a term with something behind it. -/
def redefines (c : Context) (iri : String) : Bool :=
  match c.term? iri with
  | some t => t.iri != iri
  | none =>
    match Iri.splitScheme? iri with
    | some (scheme, rest) =>
      !isHierarchical rest
        && (c.term? (String.ofList scheme)).any fun t => t.iri ++ String.ofList rest != iri
    | none => false

/-- **A context leaves an absolute IRI as it is** if and only if it does not redefine it. -/
theorem expandTerm_eq_self_iff {c : Context} {iri : String} (h : Iri.isAbsolute iri = true) :
    c.expandTerm iri = iri ↔ c.redefines iri = false := by
  have habsolute := Iri.isAbsolute_iff.mp h
  obtain ⟨scheme, rest, hs⟩ := habsolute.exists_splitScheme?
  have hscheme : (Iri.scheme? iri).isSome = true := by rw [Iri.scheme?, hs]; rfl
  unfold expandTerm expandPrefixed? redefines
  rw [isReserved_of_absolute habsolute, Iri.splitAtFirst_of_splitScheme? hs, hs]
  cases hterm : c.term? iri with
  | some t => simp
  | none =>
    cases hh : isHierarchical rest with
    | true => simp [hscheme, hh]
    | false =>
      cases hfirst : c.term? (String.ofList scheme) with
      | none => simp [hscheme, hfirst, hh]
      | some t => simp [hfirst, hh]

end JsonLd.Context

/-! ### The IRIs of a schema -/

/-- The IRIs that a property shape names. -/
def PropertyShape.iris (p : PropertyShape) : List String :=
  p.path :: (p.datatype.toList ++ p.allowed.getD [])

/-- The IRIs that a node shape names. -/
def NodeShape.iris (s : NodeShape) : List String :=
  s.targetClass :: s.properties.flatMap PropertyShape.iris

/-- The IRIs that a schema names. -/
def Schema.iris (s : Schema) : List String := s.shapes.flatMap NodeShape.iris

section Congr
variable {c c' : JsonLd.Context} {sliceId : String}

theorem PropertyShape.compile_congr {p : PropertyShape}
    (h : ∀ iri ∈ p.iris, c.expandTerm iri = c'.expandTerm iri) :
    p.compile sliceId c = p.compile sliceId c' := by
  have hpath : c.expandTerm p.path = c'.expandTerm p.path := h _ (by simp [iris])
  have hdatatype : p.datatype.map c.expandTerm = p.datatype.map c'.expandTerm :=
    Option.map_congr fun d hd => h d (by simp [iris, hd])
  have hallowed : (p.allowed.map fun vs => vs.map c.expandTerm) =
      p.allowed.map fun vs => vs.map c'.expandTerm :=
    Option.map_congr fun vs hvs => List.map_congr_left fun v hv => h v (by simp [iris, hvs, hv])
  unfold compile
  rw [hpath, hdatatype, hallowed]

theorem NodeShape.compile_congr {s : NodeShape}
    (h : ∀ iri ∈ s.iris, c.expandTerm iri = c'.expandTerm iri) :
    s.compile sliceId c = s.compile sliceId c' := by
  have hclass : c.expandTerm s.targetClass = c'.expandTerm s.targetClass := h _ (by simp [iris])
  have hproperties : s.properties.mapM (PropertyShape.compile sliceId c) =
      s.properties.mapM (PropertyShape.compile sliceId c') :=
    mapM_congr fun p hp => PropertyShape.compile_congr fun iri hiri =>
      h iri (List.mem_cons_of_mem _ (List.mem_flatMap.mpr ⟨p, hp, hiri⟩))
  unfold compile
  rw [hclass, hproperties]

/-- **What a schema is compiled to** depends on the context only through the meaning of its IRIs. -/
theorem Schema.compile_congr {s : Schema}
    (h : ∀ iri ∈ s.iris, c.expandTerm iri = c'.expandTerm iri) (mode : ShapeMode) :
    s.compile c mode = s.compile c' mode := by
  have hshapes : s.shapes.mapM (NodeShape.compile s.id c) =
      s.shapes.mapM (NodeShape.compile s.id c') :=
    mapM_congr fun shape hs => NodeShape.compile_congr fun iri hiri =>
      h iri (List.mem_flatMap.mpr ⟨shape, hs, hiri⟩)
  unfold compile
  rw [hshapes]

end Congr

/-! ### Reports under two contexts -/

/-- The report of a check of records against a schema that is expanded against a context. -/
def Schema.report (s : Schema) (c : JsonLd.Context) (mode : ShapeMode) (rs : List Record) :
    Except Failure Json :=
  ((s.compile c mode).mapError BadPattern.toFailure).map fun shapes =>
    validationReport (shapes.check rs)

/-- The report of a check of records against a schema, under the context of a request. -/
def Schema.reportUnder (s : Schema) (context : Json) (mode : ShapeMode) (rs : List Record) :
    Except Failure Json := do
  s.report (← (JsonLd.Context.parse context).mapError JsonLd.Fault.toFailure) mode rs

/-- **Contexts that redefine no IRI of a schema make no difference.** If all IRIs of a schema are
absolute, a check of records against it has the same report under any two contexts that can be read
and that give none of these IRIs another meaning. -/
theorem report_independent_of_context {schema : Schema}
    (habsolute : ∀ iri ∈ schema.iris, Iri.isAbsolute iri = true) {v v' : Json}
    {c c' : JsonLd.Context} (hv : JsonLd.Context.parse v = .ok c)
    (hv' : JsonLd.Context.parse v' = .ok c') (hc : ∀ iri ∈ schema.iris, c.redefines iri = false)
    (hc' : ∀ iri ∈ schema.iris, c'.redefines iri = false) (mode : ShapeMode) (rs : List Record) :
    schema.reportUnder v mode rs = schema.reportUnder v' mode rs := by
  have hexpand : ∀ iri ∈ schema.iris, c.expandTerm iri = c'.expandTerm iri := fun iri hiri => by
    have hiff := fun c => JsonLd.Context.expandTerm_eq_self_iff (c := c) (habsolute iri hiri)
    rw [(hiff c).mpr (hc iri hiri), (hiff c').mpr (hc' iri hiri)]
  have hreport : schema.report c mode rs = schema.report c' mode rs := by
    unfold Schema.report
    rw [Schema.compile_congr hexpand mode]
  unfold Schema.reportUnder
  rw [hv, hv']
  exact hreport

/-- Terms of its own, and even one for the scheme of an IRI with an authority, let a context leave
the violation as it is. -/
theorem report_independent_of_context_of_terms :
    let schema : Schema := ⟨"people", false, [⟨"http://example.org/Person", false,
      [⟨"http://example.org/name", some 1, none, none, none, none, none⟩]⟩]⟩
    let context : Json := .object [("ex", .string "http://example.org/"),
      ("http", .string "urn:elsewhere"), ("name", .string "ex:name")]
    let x : Record := ⟨"r", ⟨0, 0⟩, .insert,
      ⟨"urn:1", Vocabulary.rdfType, .iri "http://example.org/Person", "", none, none⟩⟩
    schema.reportUnder context .insert [x] = schema.reportUnder (.object []) .insert [x] ∧
      schema.reportUnder context .insert [x] ≠ .ok (validationReport []) := by
  intro schema context x
  have hv : JsonLd.Context.parse context = .ok
      ⟨[("name", ⟨"http://example.org/name", none⟩), ("http", ⟨"urn:elsewhere", none⟩),
        ("ex", ⟨"http://example.org/", none⟩)], none, none⟩ := by decide +kernel
  have habsolute : ∀ iri ∈ schema.iris, Iri.isAbsolute iri = true := by decide +kernel
  have hempty : JsonLd.Context.parse (.object []) = .ok .empty := rfl
  exact ⟨report_independent_of_context habsolute hv hempty (by decide +kernel) (by decide +kernel)
    .insert [x], by decide +kernel⟩

/-- A context that gives the class of a schema another meaning, as a term or through its scheme,
lets records pass that violate the schema. -/
theorem report_depends_on_context :
    let schema : String → Schema := fun cls => ⟨"people", false, [⟨cls, false,
      [⟨"http://example.org/name", some 1, none, none, none, none, none⟩]⟩]⟩
    let person : String → Record := fun cls =>
      ⟨"r", ⟨0, 0⟩, .insert, ⟨"urn:1", Vocabulary.rdfType, .iri cls, "", none, none⟩⟩
    let passes := fun (cls : String) (context : Json) =>
      ((schema cls).reportUnder context .insert [person cls]).map fun report =>
        report == validationReport []
    (∀ iri ∈ (schema "http://example.org/Person").iris, Iri.isAbsolute iri = true) ∧
    passes "http://example.org/Person" (.object []) = .ok false ∧
    passes "http://example.org/Person" (.object
      [("http://example.org/Person", .string "http://example.org/Other")]) = .ok true ∧
    (∀ iri ∈ (schema "urn:Person").iris, Iri.isAbsolute iri = true) ∧
    passes "urn:Person" (.object []) = .ok false ∧
    passes "urn:Person" (.object [("urn", .string "http://example.org/")]) = .ok true := by
  decide +kernel

end GraphLedger
