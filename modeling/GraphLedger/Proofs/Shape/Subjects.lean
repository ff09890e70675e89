import GraphLedger.Proofs.Shape.Conforms
import GraphLedger.Proofs.Shape.Exact
import GraphLedger.Proofs.Storage.Coverage
import Mathlib.Algebra.BigOperators.Group.Finset.Basic
import Mathlib.Algebra.Order.Group.Multiset

/-! # Validation goes by subjects

A check takes the records apart by subject, and holds each subject against the shapes by its own
records alone: these say of which classes it is, what values its properties have, and which
properties it has. So what is found in all records is what is found in those of each subject. The
order of the records decides in which order it is found, and nothing else, since the values of a
property are counted and looked at one by one, and classes and predicates are taken as sets.

* `checkSubject_perm`: the order of the statements of a subject does not matter.
* `check_perm`: nor does that of all records.
* `check_perm_flatMap`: all records violate what the records of each subject do.
* `check_by_subject`: the same with the violations as a multiset, and for records that conform. -/

namespace GraphLedger

/-! ### The order of the statements -/

theorem perm_eraseDups {α : Type} [BEq α] [LawfulBEq α] {l l' : List α} (h : l.Perm l') :
    l.eraseDups.Perm l'.eraseDups := by
  refine (List.perm_ext_iff_of_nodup (nodup_eraseDups l) (nodup_eraseDups l')).mpr fun a => ?_
  rw [List.mem_eraseDups, List.mem_eraseDups, h.mem_iff]

theorem PropertyRule.check_perm (rule : PropertyRule) (focus : String) (shape : NodeRule)
    {values values' : List Statement} (h : values.Perm values') :
    (rule.check focus shape values).Perm (rule.check focus shape values') := by
  unfold check
  rw [h.length_eq]
  exact (h.flatMap_right _).append_left _

namespace ShapeSet
variable (s : ShapeSet)

section Perm
variable {sts sts' : List Statement} (h : sts.Perm sts')
include h

theorem rulesFor_perm : s.rulesFor sts = s.rulesFor sts' := by
  have hclasses : (classesOf sts).Perm (classesOf sts') := (h.filter _).map _
  refine List.filter_congr fun r _ => ?_
  rw [Bool.eq_iff_iff, List.contains_iff_mem, List.contains_iff_mem, hclasses.mem_iff]

theorem predicatesOf_perm : (predicatesOf sts).Perm (predicatesOf sts') :=
  (List.mergeSort_perm _ _).trans
    ((perm_eraseDups (h.map _)).trans (List.mergeSort_perm _ _).symm)

/-- **The order of the statements of a subject** does not matter. -/
theorem checkSubject_perm (subject : String) :
    (s.checkSubject subject sts).Perm (s.checkSubject subject sts') := by
  unfold checkSubject
  rw [s.rulesFor_perm h]
  refine List.Perm.append ?_ (((predicatesOf_perm h).filter _).map _)
  exact List.Perm.flatMap_left _ fun r _ => List.Perm.flatMap_left _ fun p _ =>
    p.check_perm subject r (h.filter _)

theorem checkInserts_perm : (s.checkInserts sts).Perm (s.checkInserts sts') :=
  (perm_eraseDups (h.map _)).flatMap fun subject _ => s.checkSubject_perm (h.filter _) subject

theorem checkDeletes_perm : (s.checkDeletes sts).Perm (s.checkDeletes sts') :=
  (h.filter _).map _

end Perm

/-- **The order of the records** decides on the order of what is found only. -/
theorem check_perm {rs rs' : List Record} (h : rs.Perm rs') : (s.check rs).Perm (s.check rs') := by
  unfold check
  cases s.mode with
  | insert => exact s.checkInserts_perm (h.map _)
  | delete => exact s.checkDeletes_perm (h.map _)

/-! ### The statements of one subject -/

theorem nodup_subjectsOf (sts : List Statement) : (subjectsOf sts).Nodup := nodup_eraseDups _

theorem mem_subjectsOf_iff {sts : List Statement} {subject : String} :
    subject ∈ subjectsOf sts ↔ ∃ st ∈ sts, st.subject = subject := by
  rw [subjectsOf, List.mem_eraseDups, List.mem_map]

theorem statementsOf_statementsOf (sts : List Statement) (subject : String) :
    statementsOf (statementsOf sts subject) subject = statementsOf sts subject := by
  rw [statementsOf, statementsOf, List.filter_filter]
  simp only [Bool.and_self]

theorem subjectsOf_statementsOf {sts : List Statement} {subject : String}
    (h : subject ∈ subjectsOf sts) : subjectsOf (statementsOf sts subject) = [subject] := by
  refine List.perm_singleton.mp ((List.perm_ext_iff_of_nodup (nodup_subjectsOf _)
    (List.nodup_singleton _)).mpr fun other => ?_)
  rw [mem_subjectsOf_iff, List.mem_singleton]
  constructor
  · rintro ⟨st, hst, rfl⟩
    exact of_decide_eq_true (List.mem_filter.mp hst).2
  · rintro rfl
    obtain ⟨st, hst, hsubject⟩ := mem_subjectsOf_iff.mp h
    exact ⟨st, List.mem_filter.mpr ⟨hst, decide_eq_true hsubject⟩, hsubject⟩

theorem checkInserts_statementsOf {sts : List Statement} {subject : String}
    (h : subject ∈ subjectsOf sts) :
    s.checkInserts (statementsOf sts subject) =
      s.checkSubject subject (statementsOf sts subject) := by
  unfold checkInserts
  rw [subjectsOf_statementsOf h, List.flatMap_singleton]
  exact congrArg _ (statementsOf_statementsOf sts subject)

theorem checkDeletes_flatMap {α : Type} (l : List α) (f : α → List Statement) :
    s.checkDeletes (l.flatMap f) = l.flatMap fun a => s.checkDeletes (f a) := by
  unfold checkDeletes
  rw [List.filter_flatMap, List.map_flatMap]

theorem flatMap_statementsOf_perm (sts : List Statement) :
    ((subjectsOf sts).flatMap (statementsOf sts)).Perm sts := by
  have hperm := flatMap_filter_perm (f := fun st : Statement => some st.subject) (l := sts)
    (nodup_subjectsOf sts) fun st hst =>
      ⟨st.subject, mem_subjectsOf_iff.mpr ⟨st, hst, rfl⟩, rfl⟩
  simp only [Option.some.injEq] at hperm
  exact hperm

theorem statement_ofSubject (rs : List Record) (subject : String) :
    (ofSubject rs subject).map Record.statement =
      statementsOf (rs.map Record.statement) subject := by
  rw [ofSubject, statementsOf, List.filter_map]
  rfl

/-- **All records violate what the records of each subject do**, in either mode. -/
theorem check_perm_flatMap (rs : List Record) :
    (s.check rs).Perm ((subjectsOf (rs.map Record.statement)).flatMap fun subject =>
      s.check (ofSubject rs subject)) := by
  unfold check
  cases s.mode with
  | insert =>
    refine List.Perm.flatMap_left _ fun subject hsubject => ?_
    show (s.checkSubject subject (statementsOf _ subject)).Perm (s.checkInserts _)
    rw [statement_ofSubject, s.checkInserts_statementsOf hsubject]
  | delete =>
    refine (s.checkDeletes_perm (flatMap_statementsOf_perm _).symm).trans ?_
    rw [s.checkDeletes_flatMap]
    refine List.Perm.flatMap_left _ fun subject _ => ?_
    show (s.checkDeletes _).Perm (s.checkDeletes _)
    rw [statement_ofSubject]

theorem check_nil : s.check [] = [] := by
  unfold check
  cases s.mode with
  | insert => rfl
  | delete => rfl

theorem check_eq_nil_iff_forall (rs : List Record) :
    s.check rs = [] ↔ ∀ subject, s.check (ofSubject rs subject) = [] := by
  have hperm := s.check_perm_flatMap rs
  constructor
  · intro h subject
    rw [h, List.nil_perm, List.flatMap_eq_nil_iff] at hperm
    by_cases hsubject : subject ∈ subjectsOf (rs.map Record.statement)
    · exact hperm subject hsubject
    · -- what has no records violates nothing
      have hnone : ofSubject rs subject = [] := by
        refine List.filter_eq_nil_iff.mpr fun x hx hof => hsubject (mem_subjectsOf_iff.mpr ?_)
        exact ⟨x.statement, List.mem_map_of_mem hx, of_decide_eq_true hof⟩
      rw [hnone]
      exact s.check_nil
  · intro h
    rw [List.flatMap_eq_nil_iff.mpr fun subject _ => h subject] at hperm
    exact hperm.eq_nil

end ShapeSet

/-! ### Violations as a multiset -/

/-- **Validation is local to subjects and does not see the order of records.** Whatever shapes
records are checked against, and in either mode: if the records come in another order, so do the
violations, and there are none in one order if there are none in the other; the violations by all
records are those by the records of each subject taken together, each as often as it is found; and
so records conform if and only if those of each subject do by themselves. -/
theorem check_by_subject (s : ShapeSet) (rs : List Record) :
    (∀ rs', rs.Perm rs' →
      (s.check rs).Perm (s.check rs') ∧ (s.check rs = [] ↔ s.check rs' = [])) ∧
    (s.check rs : Multiset Violation) =
      ∑ subject ∈ (rs.map fun r => r.statement.subject).toFinset,
        (s.check (ofSubject rs subject) : Multiset Violation) ∧
    (s.check rs = [] ↔ ∀ subject, s.check (ofSubject rs subject) = []) := by
  refine ⟨fun rs' h => ⟨s.check_perm h, ?_⟩, ?_, s.check_eq_nil_iff_forall rs⟩
  · rw [← List.perm_nil, ← List.perm_nil]
    exact ⟨(s.check_perm h).symm.trans, (s.check_perm h).trans⟩
  · have hsubjects : (rs.map fun r => r.statement.subject).toFinset =
        (ShapeSet.subjectsOf (rs.map Record.statement)).toFinset := by
      ext subject
      rw [List.mem_toFinset, List.mem_toFinset, ShapeSet.mem_subjectsOf_iff]
      simp only [List.mem_map, exists_exists_and_eq_and]
    rw [hsubjects, List.sum_toFinset _ (ShapeSet.nodup_subjectsOf _), ← Multiset.sum_coe,
      ← Multiset.map_coe]
    exact (Multiset.coe_eq_coe.mpr (s.check_perm_flatMap rs)).trans (Multiset.coe_bind _ _).symm

/-- A person without a name, and between its types something else with a property that a closed
slice does not declare: what is found changes its order with the records. -/
theorem check_by_subject_of_two :
    let s : ShapeSet := ⟨"people", .insert, true,
      [⟨"urn:Person", false, [⟨"urn:name", some 1, none, none, none, none, none⟩]⟩]⟩
    let x : String → String → Object → Record := fun subject predicate object =>
      ⟨"r", ⟨0, 0⟩, .insert, ⟨subject, predicate, object, "", none, none⟩⟩
    let rs : List Record := [x "urn:1" Vocabulary.rdfType (.iri "urn:Person"),
      x "urn:2" "urn:age" (.literal "3"), x "urn:1" Vocabulary.rdfType (.iri "urn:Agent")]
    let rs' : List Record := [x "urn:2" "urn:age" (.literal "3"),
      x "urn:1" Vocabulary.rdfType (.iri "urn:Agent"),
      x "urn:1" Vocabulary.rdfType (.iri "urn:Person")]
    rs.Perm rs' ∧ (s.check rs).map Violation.focusNode = ["urn:1", "urn:2"] ∧
      (s.check rs').map Violation.focusNode = ["urn:2", "urn:1"] ∧
      (s.check rs).Perm (s.check rs') ∧ (s.check rs = [] ↔ s.check rs' = []) := by
  intro s x rs rs'
  have hperm : rs.Perm rs' := by decide +kernel
  exact ⟨hperm, by decide +kernel, by decide +kernel, (check_by_subject s rs).1 rs' hperm⟩

end GraphLedger
