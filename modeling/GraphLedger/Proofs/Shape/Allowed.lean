import GraphLedger.Proofs.JsonLd.Expansion
import GraphLedger.Proofs.Shape.Exact
import Mathlib.Data.Finset.Max

/-! # Lists of allowed values

A property shape may list the values that are allowed. The strings of the list are expanded against
the context of the request, as the IRIs of a schema are, and the text of each value is then looked
for among what they have become. For values that are IRIs this is what a compact IRI in a schema is
for. But the text of a literal is taken as it is, by the translation of entries and by all other
constraints, and so a literal is allowed if some string of the list is expanded to its text, and not
if the list has it. The two differ as soon as the context has a vocabulary, or a term or a prefix
that a string of the list happens to be or to begin with.

* `Schema.rejects_rules_iff`: which values are found outside of a list.
* `allowed_as_expanded`: literals are held against the expanded strings, and against those that are
  written only if that comes to the same.
* `words_as_written_iff`: a list of words has the strings that are written only without a
  vocabulary. -/

namespace GraphLedger

/-! ### Values that are rejected -/

/-- Whether a check finds a value outside of a list: that of a property of a subject, by a shape for
a class. -/
def ShapeSet.Rejects (s : ShapeSet) (rs : List Record) (subject cls path value : String) : Prop :=
  ∃ v ∈ s.check rs, v.constraint = .allowed ∧ v.focusNode = subject ∧ v.sourceShape = some cls ∧
    v.resultPath = some path ∧ v.value = some value

namespace Schema
variable (s : Schema) (c : JsonLd.Context)

/-- The lists of values that the shapes for a class allow for a property, as they are written. -/
def allowedLists (cls path : String) : List (List String) :=
  (s.shapes.filter fun shape => c.expandTerm shape.targetClass = cls).flatMap fun shape =>
    (shape.properties.filter fun p => c.expandTerm p.path = path).filterMap PropertyShape.allowed

variable {s c}

theorem mem_allowedLists_iff {cls path : String} {values : List String} :
    values ∈ s.allowedLists c cls path ↔ ∃ shape ∈ s.shapes, c.expandTerm shape.targetClass = cls ∧
      ∃ p ∈ shape.properties, c.expandTerm p.path = path ∧ p.allowed = some values := by
  simp only [allowedLists, List.mem_flatMap, List.mem_filter, List.mem_filterMap,
    decide_eq_true_eq, and_assoc]

theorem not_admits_allowed_iff {p : PropertyShape} {st : Statement} :
    ¬ p.Admits c st .allowed ↔
      ∃ values, p.allowed = some values ∧ st.object.text ∉ values.map c.expandTerm := by
  simp only [PropertyShape.Admits, not_forall, exists_prop]

/-- **Which values are rejected**: those that a subject of the class has, and that are not among
what the strings of some list are expanded to. -/
theorem rejects_rules_iff {rs : List Record} {subject cls path value : String} :
    (s.rules c .insert).Rejects rs subject cls path value ↔
      IsOfClass (rs.map Record.statement) subject cls ∧
        (∃ st ∈ rs.map Record.statement,
          st.isValueOf subject path = true ∧ st.object.text = value) ∧
        ∃ values ∈ s.allowedLists c cls path, value ∉ values.map c.expandTerm := by
  have hresults := reports_demands (s := s) (c := c) .insert rs
  constructor
  · rintro ⟨v, hv, hallowed, rfl, hcls, hpath, hvalue⟩
    obtain ⟨d, hd, hreports⟩ := exists_of_mem_forall₂ hresults v hv
    have hviolates := mem_demands_iff.mp hd
    cases d with
    | property subject i j x place =>
      obtain ⟨shape, p, hi, hj, hfocus, hpath', hcls', hconstraint, hvalue'⟩ := hreports
      obtain ⟨-, shape', p', hi', hj', htargets, hfails⟩ := hviolates
      cases hi.symm.trans hi'
      cases hj.symm.trans hj'
      obtain rfl : x = .allowed := hconstraint.symm.trans hallowed
      obtain rfl : c.expandTerm shape.targetClass = cls :=
        Option.some.inj (hcls'.symm.trans hcls)
      obtain rfl : c.expandTerm p.path = path := Option.some.inj (hpath'.symm.trans hpath)
      rw [hfocus]
      cases place with
      | none => exact absurd trivial hfails
      | some k =>
        obtain ⟨st, hk, hof, hnot⟩ := hfails
        rw [hvalue, Option.bind_some, hk] at hvalue'
        obtain rfl : value = st.object.text := Option.some.inj hvalue'
        obtain ⟨values, hvalues, hnot⟩ := not_admits_allowed_iff.mp hnot
        exact ⟨htargets, ⟨st, List.mem_of_getElem? hk, hof, rfl⟩, values,
          mem_allowedLists_iff.mpr ⟨shape, List.mem_of_getElem? hi, rfl, p,
            List.mem_of_getElem? hj, rfl, hvalues⟩, hnot⟩
    | predicate subject predicate =>
      obtain ⟨-, -, -, hclosed, -⟩ := hreports
      cases hclosed.symm.trans hallowed
    | deletion k => cases hviolates.1
  · rintro ⟨hclass, ⟨st, hst, hof, rfl⟩, values, hvalues, hnot⟩
    obtain ⟨shape, hshape, rfl, p, hp, rfl, hallowed⟩ := mem_allowedLists_iff.mp hvalues
    obtain ⟨i, hi⟩ := List.mem_iff_getElem?.mp hshape
    obtain ⟨j, hj⟩ := List.mem_iff_getElem?.mp hp
    obtain ⟨k, hk⟩ := List.mem_iff_getElem?.mp hst
    have hviolates : s.Violates c .insert (rs.map Record.statement)
        (.property subject i j .allowed (some k)) :=
      ⟨rfl, shape, p, hi, hj, hclass, st, hk, hof,
        not_admits_allowed_iff.mpr ⟨values, hallowed, hnot⟩⟩
    obtain ⟨v, hv, shape', p', hi', hj', hfocus, hpath, hcls, hconstraint, hvalue⟩ :=
      exists_of_mem_forall₂ hresults.flip _ (mem_demands_iff.mpr hviolates)
    cases hi.symm.trans hi'
    cases hj.symm.trans hj'
    rw [Option.bind_some, hk] at hvalue
    exact ⟨v, hv, hconstraint, hfocus, hcls, hpath, hvalue⟩

theorem eq_rules_of_compile {mode : ShapeMode} {shapes : ShapeSet}
    (h : s.compile c mode = .ok shapes) : shapes = s.rules c mode :=
  Except.ok.inj (h.symm.trans (compile_eq_ok c (readable_of_compile c h) mode))

end Schema

/-! ### Literals -/

/-- Whether shapes hold literals against the lists of a schema as they are written: whatever the
records, a literal that a subject of a class has is rejected if and only if some list for the class
and the property does not have it. -/
def ShapeSet.AllowsAsWritten (s : ShapeSet) (schema : Schema) (c : JsonLd.Context) : Prop :=
  ∀ rs : List Record, ∀ x ∈ rs, ∀ value, x.statement.object = .literal value →
    ∀ cls, IsOfClass (rs.map Record.statement) x.statement.subject cls →
      (s.Rejects rs x.statement.subject cls x.statement.predicate value ↔
        ∃ values ∈ schema.allowedLists c cls x.statement.predicate, value ∉ values)

/-- **Literals are held against the expanded strings.** A literal that a subject of a class has is
rejected if and only if, for some list for the class and the property, no string of the list is
expanded to it. So the lists mean for literals what is written in the schema if and only if for each
class and property the same values are missing from the expanded lists as from the written ones. -/
theorem allowed_as_expanded {schema : Schema} {c : JsonLd.Context} {shapes : ShapeSet}
    (hshapes : schema.compile c .insert = .ok shapes) :
    (∀ rs : List Record, ∀ x ∈ rs, ∀ value, x.statement.object = .literal value →
      ∀ cls, IsOfClass (rs.map Record.statement) x.statement.subject cls →
        (shapes.Rejects rs x.statement.subject cls x.statement.predicate value ↔
          ∃ values ∈ schema.allowedLists c cls x.statement.predicate,
            value ∉ values.map c.expandTerm)) ∧
    (shapes.AllowsAsWritten schema c ↔ ∀ cls path value,
      (∃ values ∈ schema.allowedLists c cls path, value ∉ values.map c.expandTerm) ↔
        ∃ values ∈ schema.allowedLists c cls path, value ∉ values) := by
  obtain rfl := Schema.eq_rules_of_compile hshapes
  have hrejects : ∀ rs : List Record, ∀ x ∈ rs, ∀ value, x.statement.object = .literal value →
      ∀ cls, IsOfClass (rs.map Record.statement) x.statement.subject cls →
        ((schema.rules c .insert).Rejects rs x.statement.subject cls x.statement.predicate value ↔
          ∃ values ∈ schema.allowedLists c cls x.statement.predicate,
            value ∉ values.map c.expandTerm) := by
    intro rs x hx value hvalue cls hclass
    have hhas : ∃ st ∈ rs.map Record.statement,
        st.isValueOf x.statement.subject x.statement.predicate = true ∧ st.object.text = value :=
      ⟨x.statement, List.mem_map_of_mem hx, Statement.isValueOf_iff.mpr ⟨rfl, rfl⟩,
        by rw [hvalue]; rfl⟩
    rw [Schema.rejects_rules_iff, and_iff_right hclass, and_iff_right hhas]
  refine ⟨hrejects, fun h cls path value => ?_, fun h rs x hx value hvalue cls hclass => ?_⟩
  · -- a subject of the class that has the value
    let typed : Record := ⟨"", ⟨0, 0⟩, .insert,
      ⟨"urn:s", Vocabulary.rdfType, .iri cls, "", none, none⟩⟩
    let valued : Record := ⟨"", ⟨0, 0⟩, .insert, ⟨"urn:s", path, .literal value, "", none, none⟩⟩
    have hmem : valued ∈ [typed, valued] := List.mem_cons_of_mem _ List.mem_cons_self
    have hclass : IsOfClass ([typed, valued].map Record.statement) valued.statement.subject cls :=
      ⟨typed.statement, List.mem_cons_self, rfl, rfl, rfl⟩
    exact (hrejects _ valued hmem value rfl cls hclass).symm.trans
      (h _ valued hmem value rfl cls hclass)
  · exact (hrejects rs x hx value hvalue cls hclass).trans (h cls _ value)

/-- A prefix makes an IRI of the first string of a list, and the second is left as it is: so the
first is no allowed literal, and the second is one. -/
theorem allowed_as_expanded_of_prefix :
    let schema : Schema := ⟨"people", false, [⟨"urn:Person", false,
      [⟨"urn:status", none, none, none, none, none, some ["ex:active", "left"]⟩]⟩]⟩
    let c : JsonLd.Context := ⟨[("ex", ⟨"http://example.org/", none⟩)], none, none⟩
    let x : String → Object → Record := fun predicate object =>
      ⟨"r", ⟨0, 0⟩, .insert, ⟨"urn:1", predicate, object, "", none, none⟩⟩
    let rs : List Record := [x Vocabulary.rdfType (.iri "urn:Person"),
      x "urn:status" (.literal "ex:active"), x "urn:status" (.literal "left")]
    ∃ shapes, schema.compile c .insert = .ok shapes ∧
      schema.allowedLists c "urn:Person" "urn:status" = [["ex:active", "left"]] ∧
      ["ex:active", "left"].map c.expandTerm = ["http://example.org/active", "left"] ∧
      shapes.Rejects rs "urn:1" "urn:Person" "urn:status" "ex:active" ∧
      ¬ shapes.Rejects rs "urn:1" "urn:Person" "urn:status" "left" := by
  intro schema c x rs
  have hshapes : schema.compile c .insert = .ok (schema.rules c .insert) := rfl
  have hlists : schema.allowedLists c "urn:Person" "urn:status" = [["ex:active", "left"]] := by
    decide +kernel
  have hexpanded : ["ex:active", "left"].map c.expandTerm = ["http://example.org/active", "left"] :=
    by decide +kernel
  have hclass : IsOfClass (rs.map Record.statement) "urn:1" "urn:Person" :=
    ⟨_, List.mem_cons_self, rfl, rfl, rfl⟩
  have hrejects := (allowed_as_expanded hshapes).1 rs
  refine ⟨_, hshapes, hlists, hexpanded, ?_, ?_⟩
  · refine (hrejects _ (List.mem_cons_of_mem _ List.mem_cons_self) _ rfl _ hclass).mpr ?_
    exact ⟨_, by rw [hlists]; exact List.mem_cons_self, by rw [hexpanded]; decide⟩
  · intro h
    obtain ⟨values, hvalues, hnot⟩ := (hrejects _ (List.mem_cons_of_mem _ (List.mem_cons_of_mem _
      List.mem_cons_self)) _ rfl _ hclass).mp h
    rw [hlists, List.mem_singleton] at hvalues
    subst hvalues
    rw [hexpanded] at hnot
    exact hnot (by decide)

/-- Under a vocabulary a literal is rejected that is in the list, and one is accepted that is not. -/
theorem listed_literal_rejected :
    let schema : Schema := ⟨"people", false, [⟨"urn:Person", false,
      [⟨"urn:status", none, none, none, some .literal, none, some ["active"]⟩]⟩]⟩
    let x : String → Object → Record := fun predicate object =>
      ⟨"r", ⟨0, 0⟩, .insert, ⟨"urn:1", predicate, object, "", none, none⟩⟩
    let rs : List Record := [x Vocabulary.rdfType (.iri "urn:Person"),
      x "urn:status" (.literal "active"), x "urn:status" (.literal "http://v.org/active")]
    ∃ c shapes, JsonLd.Context.parse (.object [("@vocab", .string "http://v.org/")]) = .ok c ∧
      schema.compile c .insert = .ok shapes ∧
      shapes.Rejects rs "urn:1" "urn:Person" "urn:status" "active" ∧
      ¬ shapes.Rejects rs "urn:1" "urn:Person" "urn:status" "http://v.org/active" ∧
      ¬ shapes.AllowsAsWritten schema c := by
  intro schema x rs
  let c : JsonLd.Context := ⟨[], some "http://v.org/", none⟩
  have hlists : schema.allowedLists c "urn:Person" "urn:status" = [["active"]] := by decide +kernel
  have hexpanded : ["active"].map c.expandTerm = ["http://v.org/active"] := by decide +kernel
  have hclass : IsOfClass (rs.map Record.statement) "urn:1" "urn:Person" :=
    ⟨_, List.mem_cons_self, rfl, rfl, rfl⟩
  have hmem : x "urn:status" (.literal "active") ∈ rs := List.mem_cons_of_mem _ List.mem_cons_self
  have hrejects : (schema.rules c .insert).Rejects rs "urn:1" "urn:Person" "urn:status" "active" :=
    Schema.rejects_rules_iff.mpr ⟨hclass, ⟨_, List.mem_map_of_mem hmem, rfl, rfl⟩, ["active"],
      by rw [hlists]; exact List.mem_cons_self, by rw [hexpanded]; decide⟩
  refine ⟨c, schema.rules c .insert, by decide +kernel, rfl, hrejects, fun h => ?_, fun h => ?_⟩
  · obtain ⟨-, -, values, hvalues, hnot⟩ := Schema.rejects_rules_iff.mp h
    rw [hlists, List.mem_singleton] at hvalues
    subst hvalues
    rw [hexpanded] at hnot
    exact hnot List.mem_cons_self
  · obtain ⟨values, hvalues, hnot⟩ := (h rs _ hmem "active" rfl "urn:Person" hclass).mp hrejects
    have hvalues' : values ∈ [["active"]] := hlists ▸ hvalues
    rw [List.mem_singleton] at hvalues'
    subst hvalues'
    exact hnot List.mem_cons_self

/-! ### Words -/

section Words
variable {c : JsonLd.Context} {values : List String}
  (hwords : ∀ w ∈ values, JsonLd.Context.isReserved w = false ∧ c.term? w = none ∧ ':' ∉ w.toList)
include hwords

theorem map_expandTerm_words :
    values.map c.expandTerm = values.map fun w => c.vocab.getD "" ++ w := by
  refine List.map_congr_left fun w hw => ?_
  obtain ⟨hreserved, hterm, hcolon⟩ := hwords w hw
  rw [JsonLd.Context.expandTerm_of_no_term hreserved hterm hcolon]
  cases c.vocab with
  | none => exact String.empty_append.symm
  | some v => rfl

/-- **A list of words has the strings that are written** only if there is no vocabulary, or an empty
one: otherwise its shortest word is not in it any more. -/
theorem words_as_written_iff (hsome : values ≠ []) :
    (∀ value, value ∈ values.map c.expandTerm ↔ value ∈ values) ↔ c.vocab.getD "" = "" := by
  rw [map_expandTerm_words hwords]
  constructor
  · intro h
    obtain ⟨w, hw, hshortest⟩ := values.toFinset.exists_min_image String.length
      (List.toFinset_nonempty_iff values |>.mpr hsome)
    obtain ⟨w', hw', happend⟩ := List.mem_map.mp ((h w).mpr (List.mem_toFinset.mp hw))
    have hlength := congrArg String.length happend
    have hle := hshortest w' (List.mem_toFinset.mpr hw')
    rw [String.length_append] at hlength
    exact String.length_eq_zero_iff.mp (by omega)
  · intro h value
    rw [h]
    simp only [String.empty_append, List.map_id']

end Words

end GraphLedger
