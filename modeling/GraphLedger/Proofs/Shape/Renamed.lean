import GraphLedger.Proofs.Buffer.Firsts
import GraphLedger.Proofs.Buffer.Renamed
import GraphLedger.Proofs.JsonLd.Paired
import GraphLedger.Proofs.Shape.Exact

/-! # Shapes that are blind to names

Shapes ask for the classes of nodes and for the texts of values, and both may be names that were
minted. Shapes that tell no such name from another find the same wrong with records in two runs, up
to the names of the nodes that they are about.

* `ShapeSet.NameBlind`: no pattern, list of values or class tells names apart.
* `Violation.Alike`: the same violation in another run.
* `ShapeSet.check_moved`: what is found wrong in two runs. -/

namespace GraphLedger

open JsonLd

/-! ### Blind shapes -/

/-- Whether what is asked of values does not tell names apart. -/
structure PropertyRule.NameBlind (rule : PropertyRule) : Prop where
  pattern : ∀ q ∈ rule.pattern, JsonLd.NameBlind fun iri => q.isMatch iri = true
  allowed : ∀ vs ∈ rule.allowed, JsonLd.NameBlind (· ∈ vs)

/-- Whether shapes do not tell names apart. -/
structure ShapeSet.NameBlind (s : ShapeSet) : Prop where
  classes : ∀ rule ∈ s.rules, JsonLd.NameBlind (· = rule.targetClass)
  properties : ∀ rule ∈ s.rules, ∀ p ∈ rule.properties, p.NameBlind

/-- The same violation in a run with other names: only the node that it is about, and its value, may
have another name. -/
structure Violation.Alike (π : String → String) (v v' : Violation) : Prop where
  focusNode : v'.focusNode = π v.focusNode
  resultPath : v'.resultPath = v.resultPath
  sourceShape : v'.sourceShape = v.sourceShape
  constraint : v'.constraint = v.constraint
  message : v'.message = v.message
  value : v'.value = v.value ∨ v'.value = v.value.map π

section Renames
variable {π : Equiv.Perm String} {ps : List (Nat × Nat)} (hπ : Renames π ps)

/-! ### Values -/

theorem Statement.isIri_renameNodes (π : String → String) (st : Statement) :
    (st.renameNodes π).object.isIri = st.object.isIri := by
  unfold renameNodes
  cases st.object <;> rfl

theorem Statement.text_renameNodes (π : String → String) (st : Statement) :
    (st.renameNodes π).object.text = st.object.text ∨
      (st.renameNodes π).object.text = π st.object.text := by
  unfold renameNodes
  cases st.object with
  | iri i => exact Or.inr rfl
  | literal v => exact Or.inl rfl

include hπ in
/-- **What is blind to names** holds of a value in both runs or in none. -/
theorem Statement.text_iff_of_blind {P : String → Prop} (hP : JsonLd.NameBlind P)
    (st : Statement) : P (st.renameNodes π).object.text ↔ P st.object.text := by
  rcases text_renameNodes π st with h | h
  · rw [h]
  · rw [h, hπ.iff_of_blind hP]

/-- Statements of the other run. -/
abbrev renamed (π : String → String) (sts : List Statement) : List Statement :=
  sts.map (Statement.renameNodes π)

theorem filter_renamed {q : Statement → Bool} (π : String → String)
    (hq : ∀ st : Statement, q (st.renameNodes π) = q st) (sts : List Statement) :
    (renamed π sts).filter q = renamed π (sts.filter q) := by
  have hcomp : q ∘ Statement.renameNodes π = q := funext hq
  rw [renamed, List.filter_map, hcomp]

theorem valuesOf_renamed (π : String → String) (sts : List Statement) (predicate : String) :
    valuesOf (renamed π sts) predicate = renamed π (valuesOf sts predicate) :=
  filter_renamed π (fun _ => rfl) sts

/-! ### Properties -/

namespace PropertyRule
variable {rule : PropertyRule} (hrule : rule.NameBlind) (focus : String) (shape : NodeRule)

include hπ hrule in
theorem faults_renamed (st : Statement) :
    rule.kindFault? (st.renameNodes π) = rule.kindFault? st ∧
      rule.datatypeFault? (st.renameNodes π) = rule.datatypeFault? st ∧
      rule.patternFault? (st.renameNodes π) = rule.patternFault? st ∧
      rule.allowedFault? (st.renameNodes π) = rule.allowedFault? st := by
  have hkind : ∀ kind : NodeKind, kind.admits (st.renameNodes π).object = kind.admits st.object :=
    fun kind => by cases kind <;> simp only [NodeKind.admits, st.isIri_renameNodes π]
  refine ⟨?_, ?_, ?_, ?_⟩
  · simp only [kindFault?, hkind]
  · simp only [datatypeFault?, st.isIri_renameNodes π]
    rfl
  · unfold patternFault?
    cases hpattern : rule.pattern with
    | none => rfl
    | some q =>
      have hmatch := Bool.eq_iff_iff.mpr (st.text_iff_of_blind hπ (hrule.pattern q hpattern))
      simp only [bind, Option.bind, hmatch]
  · unfold allowedFault?
    cases hallowed : rule.allowed with
    | none => rfl
    | some vs =>
      have hmem := st.text_iff_of_blind hπ (hrule.allowed vs hallowed)
      rw [← List.contains_iff_mem, ← List.contains_iff_mem, ← Bool.eq_iff_iff] at hmem
      simp only [bind, Option.bind, hmem]

theorem alike_checkCounts (π : String → String) (rule : PropertyRule) (count : Nat) :
    List.Forall₂ (Violation.Alike π) (rule.checkCounts focus shape count)
      (rule.checkCounts (π focus) shape count) := by
  have hone : ∀ (P : Prop) [Decidable P] (c : Constraint) (message : String),
      List.Forall₂ (Violation.Alike π)
        (if P then [Violation.ofRule focus shape rule c message none] else [])
        (if P then [Violation.ofRule (π focus) shape rule c message none] else []) := by
    intro P _ c message
    split_ifs
    · exact .cons ⟨rfl, rfl, rfl, rfl, rfl, Or.inl rfl⟩ .nil
    · exact .nil
  unfold checkCounts
  refine List.rel_append ?_ ?_
  · cases rule.minCount with
    | none => exact .nil
    | some n => exact hone (count < n) _ _
  · cases rule.maxCount with
    | none => exact .nil
    | some n => exact hone (n < count) _ _

include hπ hrule in
theorem alike_checkValue (st : Statement) :
    List.Forall₂ (Violation.Alike π) (rule.checkValue focus shape st)
      (rule.checkValue (π focus) shape (st.renameNodes π)) := by
  obtain ⟨hkind, hdatatype, hpattern, hallowed⟩ := faults_renamed hπ hrule st
  unfold checkValue
  rw [hkind, hdatatype, hpattern, hallowed]
  have hone : ∀ c : Constraint × Option String, Option.Rel (Violation.Alike π)
      (c.2.map fun message => .ofRule focus shape rule c.1 message (some st.object))
      (c.2.map fun message =>
        .ofRule (π focus) shape rule c.1 message (some (st.renameNodes π).object)) := by
    rintro ⟨c, message | message⟩
    · exact .none
    · refine .some ⟨rfl, rfl, rfl, rfl, rfl, ?_⟩
      exact (st.text_renameNodes π).imp (congrArg some) (congrArg some)
  refine List.rel_filterMap (R := Eq) (fun c c' hc => hc ▸ hone c) ?_
  rw [List.forall₂_eq_eq_eq]

include hπ hrule in
theorem alike_check (values : List Statement) :
    List.Forall₂ (Violation.Alike π) (rule.check focus shape values)
      (rule.check (π focus) shape (renamed π values)) := by
  unfold check
  rw [renamed, List.length_map, List.flatMap_map]
  refine List.rel_append (alike_checkCounts focus shape π rule _) ?_
  exact forall₂_flatMap fun st _ => alike_checkValue hπ hrule focus shape st

end PropertyRule

/-! ### Records -/

namespace ShapeSet
variable {s : ShapeSet} (hs : s.NameBlind)
include hπ hs

theorem rulesFor_renamed (sts : List Statement) : s.rulesFor (renamed π sts) = s.rulesFor sts := by
  refine List.filter_congr fun rule hrule => ?_
  rw [Bool.eq_iff_iff, List.contains_iff_mem, List.contains_iff_mem, classesOf, classesOf,
    valuesOf_renamed, renamed, List.map_map, List.mem_map, List.mem_map]
  exact exists_congr fun st => and_congr_right fun _ =>
    st.text_iff_of_blind hπ (hs.classes rule hrule)

theorem alike_checkSubject (subject : String) (sts : List Statement) :
    List.Forall₂ (Violation.Alike π) (s.checkSubject subject sts)
      (s.checkSubject (π subject) (renamed π sts)) := by
  have hpredicates : predicatesOf (renamed π sts) = predicatesOf sts := by
    rw [predicatesOf, renamed, List.map_map]
    rfl
  unfold checkSubject
  rw [rulesFor_renamed hπ hs, hpredicates]
  refine List.rel_append (forall₂_flatMap fun rule hrule => forall₂_flatMap fun p hp => ?_) ?_
  · have hblind := hs.properties rule (List.mem_of_mem_filter hrule) p hp
    rw [valuesOf_renamed]
    exact p.alike_check hπ hblind subject rule _
  · exact forall₂_map fun p _ => ⟨rfl, rfl, rfl, rfl, rfl, Or.inl rfl⟩

/-- **What is found wrong** with records in two runs is the same, up to names. -/
theorem check_moved (rs : List Record) (time : Instant) :
    List.Forall₂ (Violation.Alike π) (s.check rs) (s.check (rs.map (Record.moved π time))) := by
  have hstatements : (rs.map (Record.moved π time)).map Record.statement =
      renamed π (rs.map Record.statement) := by
    rw [renamed, List.map_map, List.map_map]
    rfl
  unfold check
  rw [hstatements]
  generalize rs.map Record.statement = sts
  cases s.mode with
  | insert =>
    have hsubjects : subjectsOf (renamed π sts) = (subjectsOf sts).map π := by
      rw [subjectsOf, subjectsOf, ← eraseDups_map π.injective, renamed, List.map_map, List.map_map]
      rfl
    show List.Forall₂ _ (s.checkInserts sts) (s.checkInserts (renamed π sts))
    unfold checkInserts
    rw [hsubjects, List.flatMap_map]
    refine forall₂_flatMap fun subject _ => ?_
    have hown : (renamed π sts).filter (fun st => st.subject = π subject) =
        renamed π (sts.filter fun st => st.subject = subject) := by
      rw [renamed, List.filter_map]
      refine congrArg _ (List.filter_congr fun st _ => ?_)
      exact decide_eq_decide.mpr π.injective.eq_iff
    rw [hown]
    exact alike_checkSubject hπ hs subject _
  | delete =>
    show List.Forall₂ _ (s.checkDeletes sts) (s.checkDeletes (renamed π sts))
    unfold checkDeletes
    rw [filter_renamed π fun _ => rfl, renamed, List.map_map]
    exact forall₂_map fun st _ => ⟨rfl, rfl, rfl, rfl, rfl, Or.inl rfl⟩

end ShapeSet

end Renames

end GraphLedger
