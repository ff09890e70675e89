import GraphLedger.Proofs.Shape.Conforms
import GraphLedger.Proofs.Shape.Exact

/-! # What is admitted can be removed

Insertions are held against all that the shapes ask, and deletions against the declared predicates
only. A slice that is closed makes the first of these no weaker than the second: it lets no subject
have a predicate that no shape declares, other than the one for types, and that one may always be
deleted. The shapes are the same for both, as the side of a change does not matter when a schema is
compiled. An open slice admits more than it lets go.

* `Schema.compile_eq_ok_iff`: the shapes for the two sides of a change differ in nothing else.
* `declares_of_conforms`: what a closed slice admits has declared predicates.
* `removable_of_admitted`: statements that are admitted by a closed slice may be deleted.
* `Conformance.check_removal`: the gate lets through a request that takes back what it let in. -/

namespace GraphLedger

theorem Schema.compile_eq_ok_iff {schema : Schema} {c : JsonLd.Context} {mode : ShapeMode}
    {shapes : ShapeSet} :
    schema.compile c mode = .ok shapes ↔
      ∃ rules, schema.shapes.mapM (NodeShape.compile schema.id c) = .ok rules ∧
        shapes = ⟨schema.id, mode, schema.closed, rules⟩ := by
  unfold compile
  cases schema.shapes.mapM (NodeShape.compile schema.id c) with
  | error e =>
    constructor
    · rintro ⟨⟩
    · rintro ⟨rules, ⟨⟩, -⟩
  | ok rules =>
    constructor
    · rintro ⟨⟩
      exact ⟨rules, rfl, rfl⟩
    · rintro ⟨rules', ⟨⟩, rfl⟩
      rfl

namespace ShapeSet
variable {s : ShapeSet}

theorem declares_of_checkSubject (hclosed : s.closed = true) {subject : String}
    {sts : List Statement} (h : s.checkSubject subject sts = []) :
    ∀ st ∈ sts, s.declares st.predicate = true := by
  intro st hst
  unfold checkSubject at h
  obtain ⟨-, hforbidden⟩ := List.append_eq_nil_iff.mp h
  have hallowed := List.filter_eq_nil_iff.mp (List.map_eq_nil_iff.mp hforbidden) st.predicate
    (mem_predicatesOf_iff.mpr ⟨st, hst, rfl⟩)
  by_cases htype : st.predicate = Vocabulary.rdfType
  · simp [declares, htype]
  · simp [forbids, htype, hclosed] at hallowed
    exact hallowed.2

/-- **What a closed slice admits** has declared predicates. -/
theorem declares_of_conforms (hmode : s.mode = .insert) (hclosed : s.closed = true)
    {rs : List Record} (h : s.check rs = []) :
    ∀ x ∈ rs, s.declares x.statement.predicate = true := by
  intro x hx
  unfold check at h
  rw [hmode] at h
  have hsubject := (s.checkInserts_eq_nil_iff _).mp h x.statement.subject
  exact declares_of_checkSubject hclosed hsubject x.statement
    (List.mem_filter.mpr ⟨List.mem_map_of_mem hx, decide_eq_true rfl⟩)

theorem check_removal (hmode : s.mode = .insert) (hclosed : s.closed = true) {rs rs' : List Record}
    (h : s.check rs = []) (hrs : ∀ x ∈ rs', ∃ y ∈ rs, x.statement = y.statement) :
    ({ s with mode := .delete } : ShapeSet).check rs' = [] := by
  refine (checkDeletes_eq_nil_iff _ _).mpr fun st hst => ?_
  obtain ⟨x, hx, rfl⟩ := List.mem_map.mp hst
  obtain ⟨y, hy, hstatement⟩ := hrs x hx
  rw [hstatement]
  exact declares_of_conforms hmode hclosed h y hy

end ShapeSet

/-- **What a closed slice admits it can also remove.** If records conform to the insert shapes of a
closed schema under a context, the same schema and context give delete shapes, and to these conform
all records with the same statements: the deletions of all that was inserted, and those of any part
of it. -/
theorem removable_of_admitted {schema : Schema} (hclosed : schema.closed = true)
    {c : JsonLd.Context} {shapes : ShapeSet} (hshapes : schema.compile c .insert = .ok shapes)
    {rs : List Record} (hconforms : shapes.check rs = []) {rs' : List Record}
    (hrs : ∀ x ∈ rs', ∃ y ∈ rs, x.statement = y.statement) :
    ∃ shapes', schema.compile c .delete = .ok shapes' ∧ shapes'.check rs' = [] := by
  obtain ⟨rules, hrules, rfl⟩ := Schema.compile_eq_ok_iff.mp hshapes
  have hremoval := ShapeSet.check_removal rfl hclosed hconforms hrs
  exact ⟨_, Schema.compile_eq_ok_iff.mpr ⟨rules, hrules, rfl⟩, hremoval⟩

/-- A person must have a second type, and this one has. The first type is taken back, and a nick of
something else: this would not conform on insertion. -/
theorem removable_of_admitted_of_types :
    let schema : Schema := ⟨"people", true, [⟨"Person", false,
      [⟨Vocabulary.rdfType, some 2, none, none, none, none, none⟩,
        ⟨"nick", none, none, none, none, none, none⟩]⟩]⟩
    let c : JsonLd.Context := ⟨[], some "urn:", none⟩
    let x : ChangeType → String → String → Object → Record := fun t subject predicate object =>
      ⟨"r", ⟨0, 0⟩, t, ⟨subject, predicate, object, "", none, none⟩⟩
    let rs : List Record := [x .insert "urn:1" Vocabulary.rdfType (.iri "urn:Person"),
      x .insert "urn:1" Vocabulary.rdfType (.iri "urn:Agent"),
      x .insert "urn:2" "urn:nick" (.literal "A")]
    let rs' : List Record := [x .delete "urn:1" Vocabulary.rdfType (.iri "urn:Person"),
      x .delete "urn:2" "urn:nick" (.literal "A")]
    schema.closed = true ∧
      (∃ shapes, schema.compile c .insert = .ok shapes ∧ shapes.check rs = [] ∧
        shapes.check rs' ≠ []) ∧
      (∀ y ∈ rs', ∃ z ∈ rs, y.statement = z.statement) ∧
      ∃ shapes', schema.compile c .delete = .ok shapes' ∧ shapes'.check rs' = [] := by
  intro schema c x rs rs'
  have hshapes : schema.compile c .insert = .ok (schema.rules c .insert) := rfl
  have hconforms : (schema.rules c .insert).check rs = [] := by decide +kernel
  have hrs : ∀ y ∈ rs', ∃ z ∈ rs, y.statement = z.statement := by decide +kernel
  exact ⟨rfl, ⟨_, hshapes, hconforms, by decide +kernel⟩, hrs,
    removable_of_admitted rfl hshapes hconforms hrs⟩

/-- An open slice lets in what it does not let go. -/
example :
    let s : ShapeSet := ⟨"people", .insert, false, []⟩
    let x : Record := ⟨"r", ⟨0, 0⟩, .insert, ⟨"urn:1", "urn:nick", .literal "A", "", none, none⟩⟩
    s.check [x] = [] ∧ ({ s with mode := .delete } : ShapeSet).check [x] ≠ [] := by
  decide +kernel

namespace Conformance

theorem Conforms.removal {schema : Schema} (hclosed : schema.closed = true) {c : JsonLd.Context}
    {rs rs' : List Record} (h : Conforms schema c .insert rs)
    (hrs : ∀ x ∈ rs', ∃ y ∈ rs, x.statement = y.statement) : Conforms schema c .delete rs' := by
  rcases h with rfl | ⟨shapes, hshapes, hconforms⟩
  · refine Or.inl (List.eq_nil_iff_forall_not_mem.mpr fun x hx => ?_)
    obtain ⟨y, hy, -⟩ := hrs x hx
    cases hy
  · obtain ⟨rules, hrules, rfl⟩ := Schema.compile_eq_ok_iff.mp hshapes
    have hremoval := ShapeSet.check_removal rfl hclosed hconforms hrs
    exact Or.inr ⟨_, Schema.compile_eq_ok_iff.mpr ⟨rules, hrules, rfl⟩, hremoval⟩

/-- **A request that takes back** what another one has inserted passes the gate as that one has, if
it is for the same slice and has the same context, and the slice is closed. -/
theorem check_removal {schemas : Schemas} {b b' : Buffer} (hv : b.Valid) (hv' : b'.Valid)
    {sliceId : String} (hslice : b.request.sliceId = some sliceId)
    (hslice' : b'.request.sliceId = some sliceId) (hpod : b'.request.podId = b.request.podId)
    (hcontext : b'.request.context = b.request.context)
    (hclosed : ∀ schema, schemas.lookup (b.request.podId, sliceId) = some schema →
      schema.closed = true)
    (h : check schemas b = .ok ())
    (hback : ∀ x ∈ b'.contents, x.changeType = .delete ∧
      ∃ y ∈ b.contents, y.changeType = .insert ∧ x.statement = y.statement) :
    check schemas b' = .ok () := by
  obtain ⟨schema, c, hschema, hc, hconforms⟩ := (check_eq_ok_iff hv hslice).mp h
  refine (check_eq_ok_iff hv' hslice').mpr
    ⟨schema, c, by rw [hpod]; exact hschema, by rw [hcontext]; exact hc, fun t => ?_⟩
  cases t with
  | insert =>
    -- the request inserts nothing
    refine Or.inl (List.filter_eq_nil_iff.mpr fun x hx hinsert => ?_)
    rw [(hback x hx).1] at hinsert
    cases of_decide_eq_true hinsert
  | delete =>
    refine (hconforms .insert).removal (hclosed schema hschema) fun x hx => ?_
    obtain ⟨-, y, hy, hinsert, hstatement⟩ := hback x (List.mem_of_mem_filter hx)
    exact ⟨y, List.mem_filter.mpr ⟨hy, decide_eq_true hinsert⟩, hstatement⟩

end Conformance

end GraphLedger
