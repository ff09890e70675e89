import GraphLedger.Proofs.JsonLd.Expansion
import GraphLedger.Proofs.JsonLd.Naming

/-! # Literals in short and in full

A text, a number or a truth value is written in short as the value of a property, or in full as a
value object that may name a datatype. In short it has the datatype that its term is given, if any.
The two forms are read in different places, and each decides by itself which datatype is recorded.
Without a datatype they agree. With one, a truth value in short has the datatype of truth values
whatever its term is given, and a text or number in short records the datatype of texts, which in
full is recorded as none; in all other cases they agree.

* `ofFields_property`: the statements of a node that has only one property.
* `ofValue_scalar`, `ofValue_full`: the statement of a literal in short and in full.
* `literal_forms_agree_iff`: when the two are the same.
* `literal_forms_differ`: a text and a truth value for which they are not. -/

namespace GraphLedger.JsonLd

/-! ### The two forms -/

/-- Whether a value is a text, a number or a truth value. -/
def isScalar : Json → Bool
  | .bool _ | .int _ | .float _ | .string _ => true
  | _ => false

/-- A literal in full, with the datatype if one is named. -/
def fullForm (v : Json) : Option String → Json.Fields
  | none => [("@value", v)]
  | some type => [("@type", .string type), ("@value", v)]

/-- The text of a literal. -/
def textOf : Json → String
  | .string s => s
  | v => v.compact

/-- The datatype that is recorded for a literal in short. -/
def shortType? (coercion : Option Coercion) : Json → Option String
  | .bool _ => some Vocabulary.xsdBoolean
  | .int _ => some (numberType coercion Vocabulary.xsdInteger)
  | .float _ => some (numberType coercion Vocabulary.xsdDouble)
  | _ =>
    match coercion with
    | some (.datatype d) => some d
    | _ => none

/-- The datatype that is recorded for a literal in full. -/
def fullType? (c : Context) (v : Json) : Option String → Option String
  | none => nativeType? v
  | some type =>
    if c.expandTerm type = Vocabulary.xsdString then none else some (c.expandTerm type)

/-- Whether a literal with a datatype is recorded alike in both forms: a truth value if the datatype
is that of truth values, any other literal unless it is that of texts. -/
def RecordedAlike (v : Json) (type : String) : Prop :=
  match v with
  | .bool _ => type = Vocabulary.xsdBoolean
  | _ => type ≠ Vocabulary.xsdString

/-! ### Their statements -/

/-- **A node with only one property** makes the statements of its value. -/
theorem ofFields_property (c : Context) (subject graph : String) {k : String}
    (hk : isKeyword k = false) (v : Json) :
    ofFields c subject graph [(k, v)] =
      ofValue c ⟨subject, c.expandTerm k, graph⟩ (c.coercion? k) v := by
  have htype : k ≠ "@type" := by
    rintro rfl
    cases hk
  have hgraph : k ≠ "@graph" := by
    rintro rfl
    cases hk
  rw [ofFields, ofFields, if_neg htype, if_neg hgraph, hk]
  simp

section Forms
variable (c : Context) (p : Place) {v : Json} (hv : isScalar v = true)
include hv

theorem lexical_scalar : lexical v = .ok (textOf v) := by
  cases v with
  | bool b => rfl
  | int n => rfl
  | float x => rfl
  | string s => rfl
  | null | array items | object fs => cases hv

/-- **A literal in short** makes one statement, unless its term says that texts are IRIs. -/
theorem ofValue_scalar {coercion : Option Coercion} (hid : coercion ≠ some .id) :
    ofValue c p coercion v = pure [p.literal (textOf v) (shortType? coercion v) none] := by
  cases v with
  | bool b => rw [ofValue]; rfl
  | int n => rw [ofValue]; rfl
  | float x => rw [ofValue]; rfl
  | string s =>
    cases coercion with
    | none => rw [ofValue]; rfl
    | some co =>
      cases co with
      | id => exact absurd rfl hid
      | datatype d => rw [ofValue]; rfl
  | null | array items | object fs => cases hv

/-- **A literal in full** makes one statement, whatever its term says. -/
theorem ofValue_full (coercion : Option Coercion) (type : Option String) :
    ofValue c p coercion (.object (fullForm v type)) =
      pure [p.literal (textOf v) (fullType? c v type) none] := by
  have hobject : ∀ {fs : Json.Fields} {st : Statement}, Json.Fields.get? fs "@value" = some v →
      valueObject c p v fs = .ok st → ofValue c p coercion (.object fs) = pure [st] :=
    fun hget hst => by
      rw [ofValue, hget]
      dsimp only
      rw [hst]
      rfl
  cases type with
  | none =>
    refine hobject rfl ?_
    have hlexical := lexical_scalar hv
    show (lexical v).map _ = _
    rw [hlexical]
    rfl
  | some type =>
    refine hobject rfl ?_
    have hlexical := lexical_scalar hv
    show (lexical v).map _ = _
    rw [hlexical]
    rfl

theorem shortType?_none : shortType? none v = fullType? c v none := by
  cases v with
  | bool b => rfl
  | int n => rfl
  | float x => rfl
  | string s => rfl
  | null | array items | object fs => cases hv

/-- **With a datatype** that the context leaves as it is, the same is recorded or not. -/
theorem shortType?_eq_iff {D : String} (hD : c.expandTerm D = D) :
    shortType? (some (.datatype D)) v = fullType? c v (some D) ↔ RecordedAlike v D := by
  have hfull : fullType? c v (some D) = if D = Vocabulary.xsdString then none else some D := by
    show (if c.expandTerm D = Vocabulary.xsdString then none else some (c.expandTerm D)) = _
    rw [hD]
  have hother : some D = (if D = Vocabulary.xsdString then none else some D) ↔
      D ≠ Vocabulary.xsdString := by
    by_cases h : D = Vocabulary.xsdString <;> simp [h]
  rw [hfull]
  cases v with
  | bool b =>
    show some Vocabulary.xsdBoolean = _ ↔ D = Vocabulary.xsdBoolean
    by_cases h : D = Vocabulary.xsdString
    · rw [if_pos h, h]
      decide
    · rw [if_neg h, Option.some.injEq]
      exact eq_comm
  | int n => exact hother
  | float x => exact hother
  | string s => exact hother
  | null | array items | object fs => cases hv

end Forms

theorem pure_literal_inj {p : Place} {text : String} {dataType dataType' : Option String} :
    (pure [p.literal text dataType none] : Naming (List Statement)) =
      pure [p.literal text dataType' none] ↔ dataType = dataType' := by
  constructor
  · intro h
    have hgives : Gives (pure [p.literal text dataType none]) (.start 0)
        [p.literal text dataType' none] (.start 0) := by
      rw [h]
      exact gives_pure.mpr ⟨rfl, rfl⟩
    have hsame := List.singleton_inj.mp (gives_pure.mp hgives).1
    exact (congrArg Statement.dataType hsame).symm
  · rintro rfl
    rfl

/-! ### Where they agree -/

/-- **Literals in short and in full.** If the term of a property is given nothing, a text, number or
truth value makes the same statement in short and in full; for a text, this is also the statement in
full with the datatype of texts, and it records none. If the term is given a datatype, and this is
an absolute IRI that is no term and has no prefix, the literal in short makes one statement, and in
full with that datatype it makes the same one exactly if both are recorded alike. -/
theorem literal_forms_agree_iff (c : Context) (subject graph : String) {k : String}
    (hk : isKeyword k = false) {v : Json} (hv : isScalar v = true) :
    (c.coercion? k = none → ∃ st,
      ofFields c subject graph [(k, v)] = pure [st] ∧
      ofFields c subject graph [(k, .object (fullForm v none))] = pure [st] ∧
      ∀ s, v = .string s → st.dataType = none ∧ (c.expandTerm Vocabulary.xsdString =
        Vocabulary.xsdString → ofFields c subject graph
          [(k, .object (fullForm v (some Vocabulary.xsdString)))] = pure [st])) ∧
    ∀ D, c.coercion? k = some (.datatype D) → Iri.isAbsolute D = true → c.term? D = none →
      c.expandPrefixed? D = none → ∃ st,
        ofFields c subject graph [(k, v)] = pure [st] ∧
        (ofFields c subject graph [(k, .object (fullForm v (some D)))] = pure [st] ↔
          RecordedAlike v D) := by
  let p : Place := ⟨subject, c.expandTerm k, graph⟩
  have hshort : ∀ coercion, c.coercion? k = coercion → coercion ≠ some .id →
      ofFields c subject graph [(k, v)] =
        pure [p.literal (textOf v) (shortType? coercion v) none] := fun coercion hcoercion hid => by
    rw [ofFields_property c subject graph hk, hcoercion, ofValue_scalar c _ hv hid]
  have hfull : ∀ type, ofFields c subject graph [(k, .object (fullForm v type))] =
      pure [p.literal (textOf v) (fullType? c v type) none] := fun type => by
    rw [ofFields_property c subject graph hk, ofValue_full c _ hv]
  constructor
  · intro hcoercion
    have hnone := shortType?_none c hv
    refine ⟨p.literal (textOf v) (fullType? c v none) none, ?_, hfull none, ?_⟩
    · rw [hshort none hcoercion (by simp), hnone]
    · rintro s rfl
      refine ⟨rfl, fun hself => ?_⟩
      have htype : fullType? c (.string s) (some Vocabulary.xsdString) = none := if_pos hself
      rw [hfull, htype]
      rfl
  · intro D hcoercion habsolute hterm hexpanded
    have hself := Context.expandTerm_of_absolute habsolute hterm hexpanded
    refine ⟨_, hshort _ hcoercion (by simp), ?_⟩
    rw [hfull, pure_literal_inj, eq_comm, shortType?_eq_iff c hv hself]

/-- A context that gives one term a datatype. -/
def datedContext : Json :=
  .object [("born", .object [("@id", .string "urn:born"), ("@type", .string "urn:date")])]

/-- A date that its term gives a datatype, and a number whose property is no term. -/
theorem literal_forms_agree_of_date :
    ∃ c, Context.parse datedContext = .ok c ∧ c.coercion? "born" = some (.datatype "urn:date") ∧
      (∃ st, ofFields c "urn:s" "" [("born", .string "1990-01-01")] = pure [st] ∧
        ofFields c "urn:s" "" [("born", .object (fullForm (.string "1990-01-01")
          (some "urn:date")))] = pure [st]) ∧
      c.coercion? "urn:age" = none ∧
      ∃ st, ofFields c "urn:s" "" [("urn:age", .int 42)] = pure [st] ∧
        ofFields c "urn:s" "" [("urn:age", .object (fullForm (.int 42) none))] = pure [st] := by
  refine ⟨⟨[("born", ⟨"urn:born", some (.datatype "urn:date")⟩)], none, none⟩, by decide +kernel,
    rfl, ?_, rfl, ?_⟩
  · obtain ⟨-, hcoerced⟩ := literal_forms_agree_iff
      ⟨[("born", ⟨"urn:born", some (.datatype "urn:date")⟩)], none, none⟩ "urn:s" "" (k := "born")
      (by decide) (v := .string "1990-01-01") rfl
    obtain ⟨st, hshort, hfull⟩ :=
      hcoerced "urn:date" rfl (by decide +kernel) rfl (by decide +kernel)
    have hdate : RecordedAlike (.string "1990-01-01") "urn:date" := by
      show "urn:date" ≠ Vocabulary.xsdString
      decide
    exact ⟨st, hshort, hfull.mpr hdate⟩
  · obtain ⟨hplain, -⟩ := literal_forms_agree_iff
      ⟨[("born", ⟨"urn:born", some (.datatype "urn:date")⟩)], none, none⟩ "urn:s" ""
      (k := "urn:age") (by decide) (v := .int 42) rfl
    obtain ⟨st, hshort, hfull, -⟩ := hplain rfl
    exact ⟨st, hshort, hfull⟩

/-- A text whose term is given the datatype of texts records it in short and not in full, and a
truth value whose term is given another datatype than its own records that only in full. -/
theorem literal_forms_differ :
    let context : Json := .object
      [("flag", .object [("@id", .string "urn:flag"), ("@type", .string "urn:bit")]),
        ("name", .object [("@id", .string "urn:name"), ("@type", .string Vocabulary.xsdString)])]
    ∃ c, Context.parse context = .ok c ∧
      (c.coercion? "name" = some (.datatype Vocabulary.xsdString) ∧
        Iri.isAbsolute Vocabulary.xsdString = true ∧ c.term? Vocabulary.xsdString = none ∧
        c.expandPrefixed? Vocabulary.xsdString = none ∧
        ofFields c "urn:s" "" [("name", .string "a")] ≠
          ofFields c "urn:s" "" [("name", .object (fullForm (.string "a")
            (some Vocabulary.xsdString)))]) ∧
      c.coercion? "flag" = some (.datatype "urn:bit") ∧ Iri.isAbsolute "urn:bit" = true ∧
        c.term? "urn:bit" = none ∧ c.expandPrefixed? "urn:bit" = none ∧
        ofFields c "urn:s" "" [("flag", .bool true)] ≠
          ofFields c "urn:s" "" [("flag", .object (fullForm (.bool true) (some "urn:bit")))] := by
  refine ⟨⟨[("name", ⟨"urn:name", some (.datatype Vocabulary.xsdString)⟩),
    ("flag", ⟨"urn:flag", some (.datatype "urn:bit")⟩)], none, none⟩, by decide +kernel, ?_, ?_⟩
  · refine ⟨rfl, by decide +kernel, rfl, by decide +kernel, fun h => ?_⟩
    have hrecorded : (pure [Statement.ofLiteral "urn:s" "urn:name" "a" ""
        (some Vocabulary.xsdString) none] : Naming (List Statement)) =
          pure [Statement.ofLiteral "urn:s" "urn:name" "a" "" none none] := h
    cases pure_literal_inj (p := ⟨"urn:s", "urn:name", ""⟩).mp hrecorded
  · refine ⟨rfl, by decide +kernel, rfl, by decide +kernel, fun h => ?_⟩
    have hrecorded : (pure [Statement.ofLiteral "urn:s" "urn:flag" "true" ""
        (some Vocabulary.xsdBoolean) none] : Naming (List Statement)) =
          pure [Statement.ofLiteral "urn:s" "urn:flag" "true" "" (some "urn:bit") none] := h
    have htype := pure_literal_inj (p := ⟨"urn:s", "urn:flag", ""⟩).mp hrecorded
    exact absurd htype (by decide)

end GraphLedger.JsonLd
