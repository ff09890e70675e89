import GraphLedger.Proofs.Config.Runnable
import GraphLedger.Proofs.Storage.Shares
import GraphLedger.Stage.Conformance

/-! # Records that conform

Insertions are checked subject by subject, and deletions one by one. So records that conform still
do when subjects are left out, but not when a subject loses some of its records: what is asked of
the number of its values may then fail. As storage stages take subjects wholesale, what they take of
records that conform does conform.

* `checkInserts_eq_nil_iff`, `checkDeletes_eq_nil_iff`: what it means that nothing is violated.
* `check_eq_nil_of_whole`: whole subjects of records that conform do conform.
* `checkRecords_eq_ok_iff`, `check_eq_ok_iff`: what is said if a check passes. -/

namespace GraphLedger

namespace ShapeSet
variable (s : ShapeSet)

theorem checkSubject_nil (subject : String) : s.checkSubject subject [] = [] := by
  simp [checkSubject, rulesFor, classesOf, valuesOf, predicatesOf]

/-- **Insertions violate nothing** if and only if those of each subject do not. -/
theorem checkInserts_eq_nil_iff (sts : List Statement) :
    s.checkInserts sts = [] ↔
      ∀ subject, s.checkSubject subject (sts.filter fun st => st.subject = subject) = [] := by
  unfold checkInserts subjectsOf
  rw [List.flatMap_eq_nil_iff]
  simp only [List.mem_eraseDups]
  refine ⟨fun h subject => ?_, fun h subject _ => h subject⟩
  by_cases hmem : subject ∈ sts.map Statement.subject
  · exact h subject hmem
  · have hnone : (sts.filter fun st => st.subject = subject) = [] :=
      List.filter_eq_nil_iff.mpr fun st hst he =>
        hmem (List.mem_map.mpr ⟨st, hst, by simpa using he⟩)
    rw [hnone]
    exact s.checkSubject_nil subject

/-- **Deletions violate nothing** if and only if the slice declares the predicate of each. -/
theorem checkDeletes_eq_nil_iff (sts : List Statement) :
    s.checkDeletes sts = [] ↔ ∀ st ∈ sts, s.declares st.predicate = true := by
  unfold checkDeletes
  rw [List.map_eq_nil_iff, List.filter_eq_nil_iff]
  exact forall₂_congr fun st _ => by simp

/-- **Whole subjects** of records that violate nothing violate nothing. -/
theorem check_eq_nil_of_whole {rs rs' : List Record}
    (h : ∀ subject, ofSubject rs' subject = [] ∨ ofSubject rs' subject = ofSubject rs subject)
    (hc : s.check rs = []) : s.check rs' = [] := by
  have hmap : ∀ (l : List Record) (subject : String),
      ((l.map Record.statement).filter fun st => st.subject = subject) =
        (ofSubject l subject).map Record.statement := fun l subject => List.filter_map
  unfold check at hc ⊢
  cases hmode : s.mode with
  | insert =>
    simp only [hmode] at hc ⊢
    rw [checkInserts_eq_nil_iff] at hc ⊢
    intro subject
    rw [hmap]
    rcases h subject with hnone | hall
    · rw [hnone]
      exact s.checkSubject_nil subject
    · rw [hall, ← hmap]
      exact hc subject
  | delete =>
    simp only [hmode] at hc ⊢
    rw [checkDeletes_eq_nil_iff, List.forall_mem_map] at hc ⊢
    intro x hx
    have hof : x ∈ ofSubject rs' x.statement.subject := List.mem_filter.mpr ⟨hx, by simp⟩
    rcases h x.statement.subject with hnone | hall
    · rw [hnone] at hof
      cases hof
    · rw [hall] at hof
      exact hc x (List.mem_filter.mp hof).1

end ShapeSet

namespace Conformance

/-- Records of a type conform to a schema as it is expanded against a context. There need be no
shapes if there are no records. -/
def Conforms (schema : Schema) (c : JsonLd.Context) (t : ChangeType) (rs : List Record) : Prop :=
  rs = [] ∨ ∃ shapes, schema.compile c (modeOf t) = .ok shapes ∧ shapes.check rs = []

theorem checkRecords_eq_ok_iff {schema : Schema} {c : JsonLd.Context} {sliceId : String}
    {t : ChangeType} {rs : List Record} :
    checkRecords schema c sliceId t rs = .ok () ↔ Conforms schema c t rs := by
  unfold checkRecords Conforms
  cases rs with
  | nil => simp
  | cons r rs =>
    cases schema.compile c (modeOf t) with
    | error e => simp
    | ok shapes => cases hvs : shapes.check (r :: rs) <;> simp [hvs]

theorem Conforms.of_whole {schema : Schema} {c : JsonLd.Context} {t : ChangeType}
    {rs rs' : List Record} (hc : Conforms schema c t rs)
    (h : ∀ subject, ofSubject rs' subject = [] ∨ ofSubject rs' subject = ofSubject rs subject) :
    Conforms schema c t rs' := by
  rcases hc with rfl | ⟨shapes, hs, hc⟩
  · refine Or.inl (List.eq_nil_iff_forall_not_mem.mpr fun x hx => ?_)
    have hof : x ∈ ofSubject rs' x.statement.subject := List.mem_filter.mpr ⟨hx, by simp⟩
    rcases h x.statement.subject with hnone | hall
    · rw [hnone] at hof
      cases hof
    · rw [hall] at hof
      cases hof
  · exact Or.inr ⟨shapes, hs, shapes.check_eq_nil_of_whole h hc⟩

/-- **A buffer of a request for a slice passes** if and only if the slice has a schema to which the
insertions conform, and so do the deletions. -/
theorem check_eq_ok_iff {schemas : Schemas} {b : Buffer} (hv : b.Valid) {sliceId : String}
    (hslice : b.request.sliceId = some sliceId) :
    check schemas b = .ok () ↔ ∃ schema c,
      schemas.lookup (b.request.podId, sliceId) = some schema ∧
        JsonLd.Context.parse b.request.context = .ok c ∧
          ∀ t, Conforms schema c t (b.contents.filter fun x => x.changeType = t) := by
  have htype : ∀ t, b.collect (.ofType t) = b.contents.filter fun x => x.changeType = t :=
    fun t => by
      rw [hv.collect_eq]
      refine List.filter_congr fun x _ => ?_
      simp [RecordFilter.accepts, RecordFilter.ofType, RecordFilter.any, RecordFilter.agrees,
        eq_comm]
  unfold check
  simp only [hslice, htype]
  cases hschema : schemas.lookup (b.request.podId, sliceId) with
  | none => simp
  | some schema =>
    cases hcontext : JsonLd.Context.parse b.request.context with
    | error e =>
      refine iff_of_false (fun h => by cases h) ?_
      rintro ⟨_, _, -, hc, -⟩
      cases hc
    | ok c =>
      refine check_bind_eq_ok_iff.trans ?_
      rw [checkRecords_eq_ok_iff, checkRecords_eq_ok_iff]
      constructor
      · rintro ⟨hinsert, hdelete⟩
        refine ⟨schema, c, rfl, rfl, fun t => ?_⟩
        cases t with
        | insert => exact hinsert
        | delete => exact hdelete
      · rintro ⟨_, _, hs, hc, hall⟩
        cases hs
        cases hc
        exact ⟨hall .insert, hall .delete⟩

end Conformance

end GraphLedger
