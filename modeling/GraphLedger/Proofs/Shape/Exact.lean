import GraphLedger.Proofs.Shape.Meaning
import Mathlib.Data.List.Forall2
import Mathlib.Data.List.Nodup
import Mathlib.Data.List.Perm.Basic

/-! # The report of a check is exact

A check goes through the subjects, the shapes for each of them, their properties and the values of
these, and reports what is not met. Along the same way the demands that are not met can be listed,
each with its place. No place is passed twice, so no demand is listed twice; and each result of the
report is that of the demand at its place in the list.

* `fault?_isSome_iff`, `forbids_iff`: what the parts of a check find.
* `Schema.mem_demands_iff`, `Schema.nodup_demands`: the demands that are not met, each once.
* `Schema.reports_demands`: the results of a check are those of these demands.
* `report_exact`: a report conforms if the schema accepts the statements, and otherwise has one
  result for each demand that is not met. -/

namespace GraphLedger

/-! ### What the parts of a check find -/

namespace PropertyRule
variable (rule : PropertyRule)

/-- The message for a value that does not meet a constraint. -/
def fault? (st : Statement) : Constraint → Option String
  | .nodeKind => rule.kindFault? st
  | .datatype => rule.datatypeFault? st
  | .pattern => rule.patternFault? st
  | .allowed => rule.allowedFault? st
  | _ => none

/-- The message for a number of values that does not meet a constraint. -/
def countFault? (n : Nat) : Constraint → Option String
  | .minCount => rule.minCount.bind fun least =>
    if n < least then
      some ("Expected at least " ++ toString least ++ " value(s) but found " ++ toString n)
    else none
  | .maxCount => rule.maxCount.bind fun most =>
    if most < n then
      some ("Expected at most " ++ toString most ++ " value(s) but found " ++ toString n)
    else none
  | _ => none

theorem checkCounts_eq (focus : String) (shape : NodeRule) (n : Nat) :
    rule.checkCounts focus shape n = [Constraint.minCount, .maxCount].filterMap fun x =>
      (rule.countFault? n x).map fun message => .ofRule focus shape rule x message none := by
  unfold checkCounts countFault?
  cases hmin : rule.minCount with
  | none =>
    cases hmax : rule.maxCount with
    | none => rfl
    | some most => by_cases hmost : most < n <;> simp [hmost, String.append_assoc]
  | some least =>
    by_cases hleast : n < least
    · cases hmax : rule.maxCount with
      | none => simp [hleast, String.append_assoc]
      | some most => by_cases hmost : most < n <;> simp [hleast, hmost, String.append_assoc]
    · cases hmax : rule.maxCount with
      | none => simp [hleast]
      | some most => by_cases hmost : most < n <;> simp [hleast, hmost, String.append_assoc]

theorem checkValue_eq (focus : String) (shape : NodeRule) (st : Statement) :
    rule.checkValue focus shape st =
      [Constraint.nodeKind, .datatype, .pattern, .allowed].filterMap fun x =>
        (rule.fault? st x).map fun message => .ofRule focus shape rule x message (some st.object) :=
  rfl

end PropertyRule

section Context
variable (c : JsonLd.Context)

namespace PropertyShape
variable (p : PropertyShape)

theorem fault?_isSome_iff (st : Statement) (x : Constraint) :
    ((p.rule c).fault? st x).isSome = true ↔ ¬ p.Admits c st x := by
  cases x with
  | nodeKind =>
    unfold PropertyRule.fault? PropertyRule.kindFault? Admits rule
    cases hkind : p.nodeKind with
    | none => simp
    | some kind => cases hadmits : kind.admits st.object <;> simp [hadmits]
  | datatype =>
    unfold PropertyRule.fault? PropertyRule.datatypeFault? Admits rule
    cases hdatatype : p.datatype with
    | none => simp
    | some d =>
      cases hiri : st.object.isIri with
      | true => simp
      | false =>
        by_cases heq : st.dataType.getD Vocabulary.xsdString = c.expandTerm d <;>
          simp [heq, Statement.effectiveDatatype]
  | pattern =>
    unfold PropertyRule.fault? PropertyRule.patternFault? Admits rule
    cases htext : p.pattern with
    | none => simp
    | some text =>
      cases hread : Pattern.read text with
      | error e => simp [hread, Except.toOption]
      | ok q => cases hmatch : q.isMatch st.object.text <;> simp [hread, Except.toOption, hmatch]
  | allowed =>
    unfold PropertyRule.fault? PropertyRule.allowedFault? Admits rule
    cases hallowed : p.allowed with
    | none => simp
    | some vs =>
      have hfault : (if (vs.map c.expandTerm).contains st.object.text then none
          else some "Value is not in the allowed list").isSome = true ↔
            st.object.text ∉ vs.map c.expandTerm := by
        rw [← List.contains_iff_mem]
        cases (vs.map c.expandTerm).contains st.object.text with
        | true => simp
        | false => simp
      refine hfault.trans (not_congr ⟨fun h _ hvs => ?_, fun h => h vs rfl⟩)
      cases hvs
      exact h
  | minCount => simp [PropertyRule.fault?, Admits]
  | maxCount => simp [PropertyRule.fault?, Admits]
  | closed => simp [PropertyRule.fault?, Admits]

theorem countFault?_isSome_iff (n : Nat) (x : Constraint) :
    ((p.rule c).countFault? n x).isSome = true ↔ ¬ p.Bounds n x := by
  cases x with
  | minCount =>
    unfold PropertyRule.countFault? Bounds rule
    cases hmin : p.minCount with
    | none => simp
    | some least => by_cases hleast : n < least <;> simp [hleast]
  | maxCount =>
    unfold PropertyRule.countFault? Bounds rule
    cases hmax : p.maxCount with
    | none => simp
    | some most => by_cases hmost : most < n <;> simp [hmost]
  | nodeKind => simp [PropertyRule.countFault?, Bounds]
  | datatype => simp [PropertyRule.countFault?, Bounds]
  | pattern => simp [PropertyRule.countFault?, Bounds]
  | allowed => simp [PropertyRule.countFault?, Bounds]
  | closed => simp [PropertyRule.countFault?, Bounds]

end PropertyShape

/-- The statements of a subject. -/
def statementsOf (sts : List Statement) (subject : String) : List Statement :=
  sts.filter fun st => st.subject = subject

theorem valuesOf_statementsOf (sts : List Statement) (subject predicate : String) :
    valuesOf (statementsOf sts subject) predicate =
      sts.filter fun st => st.isValueOf subject predicate := by
  rw [valuesOf, statementsOf, List.filter_filter]
  refine List.filter_congr fun st _ => ?_
  rw [Statement.isValueOf, Bool.and_comm]

theorem mem_classesOf_iff {sts : List Statement} {subject cls : String} :
    cls ∈ classesOf (statementsOf sts subject) ↔ IsOfClass sts subject cls := by
  rw [classesOf, valuesOf_statementsOf, List.mem_map]
  constructor
  · rintro ⟨st, hst, rfl⟩
    obtain ⟨hmem, hvalue⟩ := List.mem_filter.mp hst
    obtain ⟨hsubject, hpredicate⟩ := Statement.isValueOf_iff.mp hvalue
    exact ⟨st, hmem, hsubject, hpredicate, rfl⟩
  · rintro ⟨st, hmem, hsubject, hpredicate, rfl⟩
    exact ⟨st, List.mem_filter.mpr ⟨hmem, Statement.isValueOf_iff.mpr ⟨hsubject, hpredicate⟩⟩, rfl⟩

namespace Schema
variable (s : Schema) (mode : ShapeMode)

theorem rulesFor_eq (sts : List Statement) :
    (s.rules c mode).rulesFor sts = (s.shapes.filter fun shape =>
      (classesOf sts).contains (c.expandTerm shape.targetClass)).map (NodeShape.rule c) :=
  List.filter_map

theorem any_path_iff {shape : NodeShape} {predicate : String} :
    ((shape.rule c).properties.any fun p => p.path = predicate) = true ↔
      shape.Names c predicate := by
  rw [NodeShape.rule, List.any_map, List.any_eq_true]
  exact exists_congr fun p => and_congr_right fun _ => decide_eq_true_iff

theorem declares_iff (predicate : String) :
    (s.rules c mode).declares predicate = true ↔ s.Declares c predicate := by
  simp [ShapeSet.declares, ShapeSet.paths, Schema.Declares, rules, NodeShape.rule, NodeShape.Names,
    PropertyShape.rule]

theorem any_rulesFor_iff {sts : List Statement} {subject : String} {q : NodeRule → Bool} :
    ((s.rules c mode).rulesFor (statementsOf sts subject)).any q = true ↔
      ∃ shape ∈ s.shapes, shape.Targets c sts subject ∧ q (shape.rule c) = true := by
  have htargets : ∀ shape : NodeShape,
      (classesOf (statementsOf sts subject)).contains (c.expandTerm shape.targetClass) = true ↔
        shape.Targets c sts subject := fun shape => by
    rw [List.contains_iff_mem, mem_classesOf_iff, NodeShape.Targets]
  rw [rulesFor_eq, List.any_map, List.any_filter, List.any_eq_true]
  simp only [Bool.and_eq_true, htargets, Function.comp_apply]

theorem forbids_iff {sts : List Statement} {subject predicate : String} :
    (s.rules c mode).forbids ((s.rules c mode).rulesFor (statementsOf sts subject)) predicate =
      true ↔ ¬ s.Allows c sts subject predicate := by
  have hclosed : ((s.rules c mode).rulesFor (statementsOf sts subject)).any NodeRule.closed = true ↔
      ∃ shape ∈ s.shapes, shape.Targets c sts subject ∧ shape.closed = true :=
    s.any_rulesFor_iff c mode
  have hnamed : (((s.rules c mode).rulesFor (statementsOf sts subject)).any fun r =>
      r.properties.any fun p => p.path = predicate) = true ↔
        ∃ shape ∈ s.shapes, shape.Targets c sts subject ∧ shape.Names c predicate := by
    rw [any_rulesFor_iff]
    simp only [any_path_iff]
  have hdeclared := s.declares_iff c mode predicate
  have hslice : (s.rules c mode).closed = s.closed := rfl
  unfold ShapeSet.forbids Allows
  rw [hslice]
  generalize ((s.rules c mode).rulesFor (statementsOf sts subject)).any NodeRule.closed = closed
    at hclosed ⊢
  generalize (((s.rules c mode).rulesFor (statementsOf sts subject)).any fun r =>
    r.properties.any fun p => p.path = predicate) = named at hnamed ⊢
  generalize (s.rules c mode).declares predicate = declared at hdeclared ⊢
  unfold Schema.Declares at hdeclared
  rw [← hclosed, ← hnamed]
  by_cases htype : predicate = Vocabulary.rdfType
  · simp [htype]
  · have hslices : (∃ shape ∈ s.shapes, shape.Names c predicate) ↔ declared = true := by
      rw [hdeclared, or_iff_right htype]
    rw [hslices, or_iff_right htype]
    cases closed <;> cases named <;> cases s.closed <;> cases declared <;> simp [htype]

end Schema

/-! ### The demands that are not met -/

/-- The demands by those constraints that find a fault. -/
def Demand.ofFaults (subject : String) (i j : Nat) (value : Option Nat) (xs : List Constraint)
    (fault? : Constraint → Option String) : List Demand :=
  (xs.filter fun x => (fault? x).isSome).map fun x => .property subject i j x value

/-- The demands by a property of a shape that a subject does not meet. -/
def PropertyShape.demands (p : PropertyShape) (sts : List Statement) (subject : String)
    (i j : Nat) : List Demand :=
  Demand.ofFaults subject i j none [.minCount, .maxCount]
      ((p.rule c).countFault? (valueCount sts subject (c.expandTerm p.path)))
    ++ (sts.zipIdx.filter fun q => q.1.isValueOf subject (c.expandTerm p.path)).flatMap fun q =>
      Demand.ofFaults subject i j (some q.2) [.nodeKind, .datatype, .pattern, .allowed]
        ((p.rule c).fault? q.1)

/-- The demands by a shape that a subject does not meet. -/
def NodeShape.demands (s : NodeShape) (sts : List Statement) (subject : String) (i : Nat) :
    List Demand :=
  s.properties.zipIdx.flatMap fun q => q.1.demands c sts subject i q.2

namespace Schema
variable (s : Schema)

/-- The demands that a subject does not meet. -/
def subjectDemands (sts : List Statement) (subject : String) : List Demand :=
  ((s.shapes.zipIdx.filter fun q =>
      (classesOf (statementsOf sts subject)).contains (c.expandTerm q.1.targetClass)).flatMap
    fun q => q.1.demands c sts subject q.2)
    ++ ((ShapeSet.predicatesOf (statementsOf sts subject)).filter
      ((s.rules c .insert).forbids
        ((s.rules c .insert).rulesFor (statementsOf sts subject)))).map (.predicate subject)

/-- The demands that are not met, in the order in which a check comes to them. -/
def demands (sts : List Statement) : ShapeMode → List Demand
  | .insert => (ShapeSet.subjectsOf sts).flatMap (s.subjectDemands c sts)
  | .delete => (sts.zipIdx.filter fun q => !(s.rules c .delete).declares q.1.predicate).map
    fun q => .deletion q.2

end Schema

/-! ### Each demand that is not met is listed -/

variable {c}

theorem Demand.mem_ofFaults_iff {subject : String} {i j : Nat} {value : Option Nat}
    {xs : List Constraint} {fault? : Constraint → Option String} {d : Demand} :
    d ∈ ofFaults subject i j value xs fault? ↔
      ∃ x ∈ xs, (fault? x).isSome = true ∧ d = .property subject i j x value := by
  simp only [ofFaults, List.mem_map, List.mem_filter, and_assoc]
  exact exists_congr fun x => and_congr_right fun _ => and_congr_right fun _ => eq_comm

theorem PropertyShape.mem_demands_iff {p : PropertyShape} {sts : List Statement} {subject : String}
    {i j : Nat} {d : Demand} :
    d ∈ p.demands c sts subject i j ↔
      ∃ x value, p.Fails c sts subject x value ∧ d = .property subject i j x value := by
  simp only [demands, List.mem_append, List.mem_flatMap, List.mem_filter, Demand.mem_ofFaults_iff,
    fault?_isSome_iff, countFault?_isSome_iff]
  constructor
  · rintro (⟨x, -, hfails, rfl⟩ | ⟨⟨st, k⟩, ⟨hk, hvalue⟩, x, -, hfails, rfl⟩)
    · exact ⟨x, none, hfails, rfl⟩
    · exact ⟨x, some k, ⟨st, List.mk_mem_zipIdx_iff_getElem?.mp hk, hvalue, hfails⟩, rfl⟩
  · rintro ⟨x, value, hfails, rfl⟩
    cases value with
    | none =>
      refine Or.inl ⟨x, ?_, hfails, rfl⟩
      -- the other constraints ask nothing of a number of values
      cases x with
      | minCount => simp
      | maxCount => simp
      | _ => exact absurd trivial hfails
    | some k =>
      obtain ⟨st, hk, hvalue, hnot⟩ := hfails
      refine Or.inr ⟨(st, k), ⟨List.mk_mem_zipIdx_iff_getElem?.mpr hk, hvalue⟩, x, ?_, hnot, rfl⟩
      cases x with
      | nodeKind => simp
      | datatype => simp
      | pattern => simp
      | allowed => simp
      | _ => exact absurd trivial hnot

theorem ShapeSet.mem_predicatesOf_iff {sts : List Statement} {predicate : String} :
    predicate ∈ predicatesOf sts ↔ ∃ st ∈ sts, st.predicate = predicate := by
  rw [predicatesOf, List.mem_mergeSort, List.mem_eraseDups, List.mem_map]

namespace Schema
variable {s : Schema}

theorem mem_subjectDemands_iff {sts : List Statement} {subject : String} {d : Demand} :
    d ∈ s.subjectDemands c sts subject ↔
      (∃ i j x value, d = .property subject i j x value ∧ s.Violates c .insert sts d) ∨
        ∃ predicate, d = .predicate subject predicate ∧ s.Violates c .insert sts d := by
  simp only [subjectDemands, NodeShape.demands, List.mem_append, List.mem_flatMap, List.mem_filter,
    List.contains_iff_mem, mem_classesOf_iff, PropertyShape.mem_demands_iff, List.mem_map,
    forbids_iff]
  refine or_congr ⟨?_, ?_⟩ ⟨?_, ?_⟩
  · rintro ⟨⟨shape, i⟩, ⟨hi, htargets⟩, ⟨p, j⟩, hj, x, value, hfails, rfl⟩
    exact ⟨i, j, x, value, rfl, rfl, shape, p, List.mk_mem_zipIdx_iff_getElem?.mp hi,
      List.mk_mem_zipIdx_iff_getElem?.mp hj, htargets, hfails⟩
  · rintro ⟨i, j, x, value, rfl, -, shape, p, hi, hj, htargets, hfails⟩
    exact ⟨(shape, i), ⟨List.mk_mem_zipIdx_iff_getElem?.mpr hi, htargets⟩, (p, j),
      List.mk_mem_zipIdx_iff_getElem?.mpr hj, x, value, hfails, rfl⟩
  · rintro ⟨predicate, ⟨hmem, hnot⟩, rfl⟩
    obtain ⟨st, hst, hpredicate⟩ := ShapeSet.mem_predicatesOf_iff.mp hmem
    obtain ⟨hst, hsubject⟩ := List.mem_filter.mp hst
    exact ⟨predicate, rfl, rfl, ⟨st, hst,
      Statement.isValueOf_iff.mpr ⟨of_decide_eq_true hsubject, hpredicate⟩⟩, hnot⟩
  · rintro ⟨predicate, rfl, -, ⟨st, hst, hvalue⟩, hnot⟩
    obtain ⟨hsubject, hpredicate⟩ := Statement.isValueOf_iff.mp hvalue
    exact ⟨predicate, ⟨ShapeSet.mem_predicatesOf_iff.mpr
      ⟨st, List.mem_filter.mpr ⟨hst, decide_eq_true hsubject⟩, hpredicate⟩, hnot⟩, rfl⟩

theorem mem_subjectsOf_of_isOfClass {sts : List Statement} {subject cls : String}
    (h : IsOfClass sts subject cls) : subject ∈ ShapeSet.subjectsOf sts := by
  obtain ⟨st, hst, hsubject, -⟩ := h
  exact List.mem_eraseDups.mpr (List.mem_map.mpr ⟨st, hst, hsubject⟩)

/-- **The demands that are listed** are those that are not met. -/
theorem mem_demands_iff {mode : ShapeMode} {sts : List Statement} {d : Demand} :
    d ∈ s.demands c sts mode ↔ s.Violates c mode sts d := by
  cases mode with
  | insert =>
    simp only [demands, List.mem_flatMap, mem_subjectDemands_iff]
    constructor
    · rintro ⟨subject, -, ⟨i, j, x, value, -, hd⟩ | ⟨predicate, -, hd⟩⟩
      · exact hd
      · exact hd
    · intro hd
      cases d with
      | property subject i j x value =>
        have htargets := hd
        obtain ⟨-, shape, p, -, -, hclass, -⟩ := htargets
        exact ⟨subject, mem_subjectsOf_of_isOfClass hclass, Or.inl ⟨i, j, x, value, rfl, hd⟩⟩
      | predicate subject predicate =>
        have hvalue := hd
        obtain ⟨-, ⟨st, hst, hvalue⟩, -⟩ := hvalue
        have hsubject := (Statement.isValueOf_iff.mp hvalue).1
        exact ⟨subject, List.mem_eraseDups.mpr (List.mem_map.mpr ⟨st, hst, hsubject⟩),
          Or.inr ⟨predicate, rfl, hd⟩⟩
      | deletion k => cases hd.1
  | delete =>
    simp only [demands, List.mem_map, List.mem_filter, Bool.not_eq_true', ← Bool.not_eq_true,
      declares_iff]
    constructor
    · rintro ⟨⟨st, k⟩, ⟨hk, hnot⟩, rfl⟩
      exact ⟨rfl, st, List.mk_mem_zipIdx_iff_getElem?.mp hk, hnot⟩
    · intro hd
      cases d with
      | property subject i j x value => cases hd.1
      | predicate subject predicate => cases hd.1
      | deletion k =>
        obtain ⟨-, st, hk, hnot⟩ := hd
        exact ⟨(st, k), ⟨List.mk_mem_zipIdx_iff_getElem?.mpr hk, hnot⟩, rfl⟩

end Schema

/-! ### No demand is listed twice -/

theorem nodup_flatMap_of_key {α β γ : Type} {l : List α} {f : α → List β} (key : α → γ)
    (found : β → γ) (hl : (l.map key).Nodup) (hf : ∀ a ∈ l, (f a).Nodup)
    (hkey : ∀ a ∈ l, ∀ b ∈ f a, found b = key a) : (l.flatMap f).Nodup := by
  refine List.nodup_flatMap.mpr ⟨hf, ?_⟩
  refine List.Pairwise.imp_of_mem ?_ (List.pairwise_map.mp hl)
  intro a a' ha ha' hne b hb hb'
  exact hne ((hkey a ha b hb).symm.trans (hkey a' ha' b hb'))

theorem nodup_eraseDups {α : Type} [BEq α] [LawfulBEq α] (l : List α) : l.eraseDups.Nodup := by
  induction hn : l.length using Nat.strongRecOn generalizing l with
  | ind n ih =>
    cases l with
    | nil => exact List.nodup_nil
    | cons a l =>
      rw [List.eraseDups_cons, List.nodup_cons]
      constructor
      · intro hmem
        obtain ⟨-, hne⟩ := List.mem_filter.mp (List.mem_eraseDups.mp hmem)
        simp at hne
      · have hlt : (l.filter fun b => !b == a).length < n := by
          have hle := List.length_filter_le (fun b => !b == a) l
          rw [List.length_cons] at hn
          omega
        exact ih _ hlt _ rfl

theorem nodup_places {α : Type} (l : List α) (q : α × Nat → Bool) :
    ((l.zipIdx.filter q).map Prod.snd).Nodup := by
  have hall : (l.zipIdx.map Prod.snd).Nodup := by
    rw [List.zipIdx_map_snd]
    exact List.nodup_range' ..
  exact (List.filter_sublist.map Prod.snd).nodup hall

namespace Demand

theorem nodup_ofFaults {subject : String} {i j : Nat} {value : Option Nat} {xs : List Constraint}
    (hxs : xs.Nodup) (fault? : Constraint → Option String) :
    (ofFaults subject i j value xs fault?).Nodup := by
  refine (hxs.filter _).map fun x y h => ?_
  cases h
  rfl

/-- The place of the shape, the property and the value of a demand. -/
def place : Demand → Nat × Nat × Option Nat
  | .property _ i j _ value => (i, j, value)
  | _ => (0, 0, none)

/-- The subject of a demand. -/
def subject : Demand → String
  | .property subject _ _ _ _ => subject
  | .predicate subject _ => subject
  | .deletion _ => ""

end Demand

theorem PropertyShape.nodup_demands (p : PropertyShape) (sts : List Statement) (subject : String)
    (i j : Nat) : (p.demands c sts subject i j).Nodup := by
  have hbounds : [Constraint.minCount, .maxCount].Nodup := by decide
  have hvalues : [Constraint.nodeKind, .datatype, .pattern, .allowed].Nodup := by decide
  unfold demands
  refine List.nodup_append'.mpr ⟨Demand.nodup_ofFaults hbounds _, ?_, fun d hd hd' => ?_⟩
  · refine nodup_flatMap_of_key (fun q => some q.2) (fun d => d.place.2.2) ?_
      (fun q _ => Demand.nodup_ofFaults hvalues _) fun q _ d hd => ?_
    · have hplaces := nodup_places sts fun q => q.1.isValueOf subject (c.expandTerm p.path)
      have hmap := hplaces.map (f := some) fun a b h => Option.some.inj h
      rw [List.map_map] at hmap
      exact hmap
    · obtain ⟨x, -, -, rfl⟩ := Demand.mem_ofFaults_iff.mp hd
      rfl
  · obtain ⟨x, -, -, rfl⟩ := Demand.mem_ofFaults_iff.mp hd
    obtain ⟨q, -, hq⟩ := List.mem_flatMap.mp hd'
    obtain ⟨y, -, -, h⟩ := Demand.mem_ofFaults_iff.mp hq
    cases h

theorem NodeShape.nodup_demands (s : NodeShape) (sts : List Statement) (subject : String)
    (i : Nat) :
    (s.demands c sts subject i).Nodup := by
  refine nodup_flatMap_of_key Prod.snd (fun d => d.place.2.1) ?_
    (fun q _ => q.1.nodup_demands sts subject i q.2) fun q _ d hd => ?_
  · rw [List.zipIdx_map_snd]
    exact List.nodup_range' ..
  · obtain ⟨x, value, -, rfl⟩ := PropertyShape.mem_demands_iff.mp hd
    rfl

namespace Schema
variable (s : Schema)

theorem nodup_subjectDemands (sts : List Statement) (subject : String) :
    (s.subjectDemands c sts subject).Nodup := by
  unfold subjectDemands
  refine List.nodup_append'.mpr ⟨?_, ?_, fun d hd hd' => ?_⟩
  · refine nodup_flatMap_of_key Prod.snd (fun d => d.place.1) (nodup_places _ _)
      (fun q _ => q.1.nodup_demands sts subject q.2) fun q _ d hd => ?_
    obtain ⟨q', -, hd⟩ := List.mem_flatMap.mp hd
    obtain ⟨x, value, -, rfl⟩ := PropertyShape.mem_demands_iff.mp hd
    rfl
  · refine List.Nodup.map (fun a b h => ?_) (List.Nodup.filter _ ?_)
    · cases h
      rfl
    · exact (List.mergeSort_perm _ _).nodup_iff.mpr (nodup_eraseDups _)
  · obtain ⟨q, -, hd⟩ := List.mem_flatMap.mp hd
    obtain ⟨q', -, hd⟩ := List.mem_flatMap.mp hd
    obtain ⟨x, value, -, rfl⟩ := PropertyShape.mem_demands_iff.mp hd
    obtain ⟨predicate, -, h⟩ := List.mem_map.mp hd'
    cases h

/-- **No demand** is listed twice. -/
theorem nodup_demands (sts : List Statement) (mode : ShapeMode) :
    (s.demands c sts mode).Nodup := by
  cases mode with
  | insert =>
    refine nodup_flatMap_of_key (fun subject => subject) Demand.subject ?_
      (fun subject _ => s.nodup_subjectDemands sts subject) fun subject _ d hd => ?_
    · rw [List.map_id']
      exact nodup_eraseDups _
    · rcases mem_subjectDemands_iff.mp hd with ⟨i, j, x, value, rfl, -⟩ | ⟨predicate, rfl, -⟩
      · rfl
      · rfl
  | delete =>
    have hplaces := nodup_places sts fun q => !(s.rules c .delete).declares q.1.predicate
    have hmap := hplaces.map (f := Demand.deletion) fun a b h => by cases h; rfl
    rw [List.map_map] at hmap
    exact hmap

end Schema

/-! ### The results are those of the demands -/

variable (c) in
/-- Whether a result is that of a demand: of its subject, property, shape, constraint and value. -/
def Schema.Reports (s : Schema) (sts : List Statement) : Demand → Violation → Prop
  | .property subject i j x value, v => ∃ shape p, s.shapes[i]? = some shape ∧
      shape.properties[j]? = some p ∧ v.focusNode = subject ∧
      v.resultPath = some (c.expandTerm p.path) ∧
      v.sourceShape = some (c.expandTerm shape.targetClass) ∧ v.constraint = x ∧
      v.value = value.bind fun k => sts[k]?.map fun st => st.object.text
  | .predicate subject predicate, v => v.focusNode = subject ∧ v.resultPath = some predicate ∧
      v.sourceShape = none ∧ v.constraint = .closed ∧ v.value = none
  | .deletion k, v => ∃ st, sts[k]? = some st ∧ v.focusNode = st.subject ∧
      v.resultPath = some st.predicate ∧ v.sourceShape = none ∧ v.constraint = .closed ∧
      v.value = none

section Forall₂
variable {α β γ : Type} {R : β → γ → Prop}

theorem forall₂_flatMap {l : List α} {f : α → List β} {g : α → List γ}
    (h : ∀ a ∈ l, List.Forall₂ R (f a) (g a)) :
    List.Forall₂ R (l.flatMap f) (l.flatMap g) := by
  induction l with
  | nil => exact .nil
  | cons a l ih =>
    obtain ⟨ha, hl⟩ := List.forall_mem_cons.mp h
    exact List.rel_append ha (ih hl)

theorem forall₂_map {l : List α} {f : α → β} {g : α → γ} (h : ∀ a ∈ l, R (f a) (g a)) :
    List.Forall₂ R (l.map f) (l.map g) := by
  rw [List.forall₂_map_left_iff, List.forall₂_map_right_iff, List.forall₂_same]
  exact h

end Forall₂

theorem Demand.reports_ofFaults {R : Demand → Violation → Prop} {subject : String} {i j : Nat}
    {value : Option Nat} {xs : List Constraint} {fault? : Constraint → Option String}
    {result : Constraint → String → Violation}
    (h : ∀ x message, R (.property subject i j x value) (result x message)) :
    List.Forall₂ R (ofFaults subject i j value xs fault?)
      (xs.filterMap fun x => (fault? x).map (result x)) := by
  induction xs with
  | nil => exact .nil
  | cons x xs ih =>
    unfold ofFaults at ih ⊢
    cases hx : fault? x with
    | none =>
      rw [List.filter_cons_of_neg (by simp [hx]), List.filterMap_cons_none (by rw [hx]; rfl)]
      exact ih
    | some message =>
      rw [List.filter_cons_of_pos (by simp [hx]), List.map_cons,
        List.filterMap_cons_some (by rw [hx]; rfl)]
      exact .cons (h x message) ih

namespace Schema
variable {s : Schema}

theorem reports_property {sts : List Statement} {subject : String} {i j : Nat} {shape : NodeShape}
    {p : PropertyShape} (hi : s.shapes[i]? = some shape) (hj : shape.properties[j]? = some p) :
    List.Forall₂ (s.Reports c sts) (p.demands c sts subject i j)
      ((p.rule c).check subject (shape.rule c)
        (valuesOf (statementsOf sts subject) (c.expandTerm p.path))) := by
  have hvalues : valuesOf (statementsOf sts subject) (c.expandTerm p.path) =
      (sts.zipIdx.filter fun q => q.1.isValueOf subject (c.expandTerm p.path)).map Prod.fst := by
    have hplaces := List.zipIdx_map_fst 0 sts
    conv_lhs => rw [valuesOf_statementsOf, ← hplaces, List.filter_map]
    rfl
  have hcount : (valuesOf (statementsOf sts subject) (c.expandTerm p.path)).length =
      valueCount sts subject (c.expandTerm p.path) := by
    rw [valuesOf_statementsOf, valueCount, List.countP_eq_length_filter]
  unfold PropertyShape.demands PropertyRule.check
  rw [hcount, PropertyRule.checkCounts_eq, hvalues, List.flatMap_map]
  refine List.rel_append ?_ (forall₂_flatMap fun q hq => ?_)
  · exact Demand.reports_ofFaults fun x message => ⟨shape, p, hi, hj, rfl, rfl, rfl, rfl, rfl⟩
  · have hk := List.mem_zipIdx_iff_getElem?.mp (List.mem_of_mem_filter hq)
    rw [PropertyRule.checkValue_eq]
    refine Demand.reports_ofFaults fun x message => ⟨shape, p, hi, hj, rfl, rfl, rfl, rfl, ?_⟩
    rw [Option.bind_some, hk]
    rfl

theorem reports_subject (sts : List Statement) (subject : String) :
    List.Forall₂ (s.Reports c sts) (s.subjectDemands c sts subject)
      ((s.rules c .insert).checkSubject subject (statementsOf sts subject)) := by
  have hrules : (s.rules c .insert).rulesFor (statementsOf sts subject) =
      (s.shapes.zipIdx.filter fun q =>
        (classesOf (statementsOf sts subject)).contains (c.expandTerm q.1.targetClass)).map
          fun q => q.1.rule c := by
    have hplaces := List.zipIdx_map_fst 0 s.shapes
    rw [rulesFor_eq]
    conv_lhs => rw [← hplaces, List.filter_map, List.map_map]
    rfl
  unfold subjectDemands ShapeSet.checkSubject
  refine List.rel_append ?_ (forall₂_map fun predicate _ => ⟨rfl, rfl, rfl, rfl, rfl⟩)
  rw [hrules, List.flatMap_map]
  refine forall₂_flatMap fun q hq => ?_
  have hi := List.mem_zipIdx_iff_getElem?.mp (List.mem_of_mem_filter hq)
  have hproperties : (q.1.rule c).properties = q.1.properties.zipIdx.map fun q' => q'.1.rule c := by
    have hplaces := List.zipIdx_map_fst 0 q.1.properties
    rw [NodeShape.rule]
    conv_lhs => rw [← hplaces, List.map_map]
    rfl
  rw [NodeShape.demands, hproperties, List.flatMap_map]
  exact forall₂_flatMap fun q' hq' =>
    reports_property hi (List.mem_zipIdx_iff_getElem?.mp hq')

/-- **The results of a check** are those of the demands that are not met, in their order. -/
theorem reports_demands (mode : ShapeMode) (rs : List Record) :
    List.Forall₂ (s.Reports c (rs.map Record.statement))
      (s.demands c (rs.map Record.statement) mode) ((s.rules c mode).check rs) := by
  unfold ShapeSet.check
  cases mode with
  | insert => exact forall₂_flatMap fun subject _ => reports_subject _ subject
  | delete =>
    have hplaces := List.zipIdx_map_fst 0 (rs.map Record.statement)
    have hresults : (s.rules c .delete).checkDeletes (rs.map Record.statement) =
        ((rs.map Record.statement).zipIdx.filter fun q =>
          !(s.rules c .delete).declares q.1.predicate).map fun q =>
            .ofPredicate q.1.subject q.1.predicate
              ("Predicate is not declared by slice '" ++ (s.rules c .delete).sliceId ++ "'") := by
      unfold ShapeSet.checkDeletes
      conv_lhs => rw [← hplaces, List.filter_map, List.map_map]
      rfl
    show List.Forall₂ _ _ ((s.rules c .delete).checkDeletes (rs.map Record.statement))
    rw [hresults]
    refine forall₂_map fun q hq => ?_
    have hk := List.mem_zipIdx_iff_getElem?.mp (List.mem_of_mem_filter hq)
    exact ⟨q.1, hk, rfl, rfl, rfl, rfl, rfl⟩

end Schema

end Context

/-- **The report of a check is exact.** If the patterns of a schema can be read, there is a report
(and only then, by `Schema.readable_of_compile`). It conforms if and only if the schema, under the
context, accepts the statements of the records; and its results are those of the demands that are
not met, one for each of them, and none else. -/
theorem report_exact {schema : Schema} (hread : schema.Readable) (c : JsonLd.Context)
    (mode : ShapeMode) (rs : List Record) :
    ∃ conforms results, schema.report c mode rs = .ok (.object
        [("conforms", .bool conforms), ("results", .array (results.map Violation.toJson))]) ∧
      (conforms = true ↔ match mode with
        | .insert => schema.Accepts c (rs.map Record.statement)
        | .delete => schema.AcceptsDeletion c (rs.map Record.statement)) ∧
      ∃ demands : List Demand, demands.Nodup ∧
        (∀ d, d ∈ demands ↔ schema.Violates c mode (rs.map Record.statement) d) ∧
        List.Forall₂ (schema.Reports c (rs.map Record.statement)) demands results := by
  have hresults := Schema.reports_demands (s := schema) (c := c) mode rs
  refine ⟨((schema.rules c mode).check rs).isEmpty, (schema.rules c mode).check rs, ?_, ?_,
    schema.demands c (rs.map Record.statement) mode, schema.nodup_demands _ mode,
    fun d => Schema.mem_demands_iff, hresults⟩
  · rw [Schema.report, Schema.compile_eq_ok c hread mode]
    rfl
  · -- no result means no demand that is not met
    have hnone : ((schema.rules c mode).check rs).isEmpty = true ↔
        ∀ d, ¬ schema.Violates c mode (rs.map Record.statement) d := by
      rw [List.isEmpty_iff, ← List.length_eq_zero_iff, ← hresults.length_eq,
        List.length_eq_zero_iff, List.eq_nil_iff_forall_not_mem]
      exact forall_congr' fun d => not_congr Schema.mem_demands_iff
    rw [hnone]
    cases mode with
    | insert => exact (schema.accepts_iff_forall_not_violates c).symm
    | delete => exact (schema.acceptsDeletion_iff_forall_not_violates c).symm

/-- A person without a name, and something else with a property that a closed slice does not
declare: there is one result for each. -/
theorem report_exact_of_person :
    let schema : Schema := ⟨"people", true,
      [⟨"Person", false, [⟨"name", some 1, none, none, none, some "^[A-Z]", none⟩]⟩]⟩
    let c : JsonLd.Context := ⟨[], some "urn:", none⟩
    let rs : List Record := [
      ⟨"r", ⟨0, 0⟩, .insert, ⟨"urn:1", Vocabulary.rdfType, .iri "urn:Person", "", none, none⟩⟩,
      ⟨"r", ⟨0, 0⟩, .insert, ⟨"urn:2", "urn:age", .literal "3", "", none, none⟩⟩]
    schema.Readable ∧ schema.demands c (rs.map Record.statement) .insert =
        [.property "urn:1" 0 0 .minCount none, .predicate "urn:2" "urn:age"] ∧
      ∃ conforms results, schema.report c .insert rs = .ok (.object
          [("conforms", .bool conforms), ("results", .array (results.map Violation.toJson))]) ∧
        (conforms = true ↔ schema.Accepts c (rs.map Record.statement)) ∧
        ∃ demands : List Demand, demands.Nodup ∧
          (∀ d, d ∈ demands ↔ schema.Violates c .insert (rs.map Record.statement) d) ∧
          List.Forall₂ (schema.Reports c (rs.map Record.statement)) demands results := by
  intro schema c rs
  have hread : schema.Readable := by
    intro shape hshape p hp text htext
    cases List.mem_singleton.mp hshape
    cases List.mem_singleton.mp hp
    cases htext
    have hsome : (Pattern.read "^[A-Z]").toOption.isSome = true := by decide +kernel
    cases hq : Pattern.read "^[A-Z]" with
    | ok q => exact ⟨q, rfl⟩
    | error e =>
      rw [hq] at hsome
      cases hsome
  exact ⟨hread, by decide +kernel, report_exact hread c .insert rs⟩

end GraphLedger
