import GraphLedger.Proofs.Config.Runnable
import GraphLedger.Proofs.Shape.Compile

/-! # What a schema asks of records

What a schema asks is said here of its own shapes, with their IRIs expanded in a context, and of a
list of statements as a whole. A subject is of a class if one of its statements says so; then the
shapes for the class ask for its properties, each by bounds on the number of values and by demands
on each value. Places in lists stand for themselves: two shapes or values that are alike are two.

* `Schema.Accepts`, `Schema.AcceptsDeletion`: what is asked of statements that are inserted, and of
  those that are deleted.
* `Schema.Violates`: which demands are not met, one by one.
* `accepts_iff_forall_not_violates`: what is accepted is what violates no demand.
* `Schema.compile_eq_ok`, `Schema.readable_of_compile`: a schema is compiled if its patterns can be
  read, and only then. -/

namespace GraphLedger

/-! ### Values -/

/-- Whether a subject is of a class: one of its statements has the class for a type. -/
def IsOfClass (sts : List Statement) (subject cls : String) : Prop :=
  ∃ st ∈ sts, st.subject = subject ∧ st.predicate = Vocabulary.rdfType ∧ st.object.text = cls

/-- Whether a statement gives a subject a value of a property. -/
def Statement.isValueOf (st : Statement) (subject predicate : String) : Bool :=
  st.subject = subject && st.predicate = predicate

theorem Statement.isValueOf_iff {st : Statement} {subject predicate : String} :
    st.isValueOf subject predicate = true ↔ st.subject = subject ∧ st.predicate = predicate := by
  simp [isValueOf]

/-- The number of values that a subject has of a property. -/
def valueCount (sts : List Statement) (subject predicate : String) : Nat :=
  sts.countP fun st => st.isValueOf subject predicate

section Context
variable (c : JsonLd.Context)

namespace PropertyShape
variable (p : PropertyShape)

/-- What a property shape asks of one value by one of its constraints: to be of the kind; to be a
literal of the datatype, which is that of texts if it names none; to match the pattern; or to be in
the list. The constraints on the number of values ask nothing of one value. -/
def Admits (st : Statement) : Constraint → Prop
  | .nodeKind => ∀ kind, p.nodeKind = some kind → kind.admits st.object = true
  | .datatype => ∀ d, p.datatype = some d →
      st.object.isIri = false ∧ st.dataType.getD Vocabulary.xsdString = c.expandTerm d
  | .pattern => ∀ text q, p.pattern = some text → Pattern.read text = .ok q →
      q.isMatch st.object.text = true
  | .allowed => ∀ vs, p.allowed = some vs → st.object.text ∈ vs.map c.expandTerm
  | _ => True

/-- What a property shape asks of the number of values. -/
def Bounds (n : Nat) : Constraint → Prop
  | .minCount => ∀ least, p.minCount = some least → least ≤ n
  | .maxCount => ∀ most, p.maxCount = some most → n ≤ most
  | _ => True

end PropertyShape

/-- Whether a subject is of the class of a shape. -/
def NodeShape.Targets (s : NodeShape) (sts : List Statement) (subject : String) : Prop :=
  IsOfClass sts subject (c.expandTerm s.targetClass)

/-- Whether a shape names a property. -/
def NodeShape.Names (s : NodeShape) (predicate : String) : Prop :=
  ∃ p ∈ s.properties, c.expandTerm p.path = predicate

namespace Schema
variable (s : Schema)

/-- Whether a subject may have a property: it must be named by a shape for the subject if one of
these is closed, and by some shape if the slice is closed. A type is always allowed. -/
def Allows (sts : List Statement) (subject predicate : String) : Prop :=
  predicate = Vocabulary.rdfType ∨
    ((∃ shape ∈ s.shapes, shape.Targets c sts subject ∧ shape.closed = true) →
      ∃ shape ∈ s.shapes, shape.Targets c sts subject ∧ shape.Names c predicate) ∧
    (s.closed = true → ∃ shape ∈ s.shapes, shape.Names c predicate)

/-- **What a schema asks of statements that are inserted.** -/
structure Accepts (sts : List Statement) : Prop where
  bounds : ∀ subject, ∀ shape ∈ s.shapes, shape.Targets c sts subject → ∀ p ∈ shape.properties,
    ∀ constraint, p.Bounds (valueCount sts subject (c.expandTerm p.path)) constraint
  values : ∀ subject, ∀ shape ∈ s.shapes, shape.Targets c sts subject → ∀ p ∈ shape.properties,
    ∀ st ∈ sts, st.subject = subject → st.predicate = c.expandTerm p.path →
      ∀ constraint, p.Admits c st constraint
  predicates : ∀ st ∈ sts, s.Allows c sts st.subject st.predicate

/-- Whether a slice declares a property: it is that for types, or a shape names it. -/
def Declares (predicate : String) : Prop :=
  predicate = Vocabulary.rdfType ∨ ∃ shape ∈ s.shapes, shape.Names c predicate

/-- **What a schema asks of statements that are deleted.** -/
def AcceptsDeletion (sts : List Statement) : Prop :=
  ∀ st ∈ sts, s.Declares c st.predicate

end Schema

/-! ### Demands one by one -/

/-- A demand on statements: by a constraint of a property of a shape, on the number of values that a
subject has or on one of its values; on a property of a subject; or on one deleted statement.
Shapes, properties and values are told by their places. -/
inductive Demand where
  | property (subject : String) (shape property : Nat) (constraint : Constraint)
      (value : Option Nat)
  | predicate (subject predicate : String)
  | deletion (place : Nat)
  deriving DecidableEq

/-- Whether a demand by a property is not met, on the number of values or on the value at a
place. -/
def PropertyShape.Fails (p : PropertyShape) (sts : List Statement) (subject : String)
    (constraint : Constraint) : Option Nat → Prop
  | none => ¬ p.Bounds (valueCount sts subject (c.expandTerm p.path)) constraint
  | some k => ∃ st, sts[k]? = some st ∧
      st.isValueOf subject (c.expandTerm p.path) = true ∧ ¬ p.Admits c st constraint

namespace Schema
variable (s : Schema)

/-- **Which demands are not met** by statements that are inserted or deleted. -/
def Violates (mode : ShapeMode) (sts : List Statement) : Demand → Prop
  | .property subject i j constraint value => mode = .insert ∧
      ∃ shape p, s.shapes[i]? = some shape ∧ shape.properties[j]? = some p ∧
        shape.Targets c sts subject ∧ p.Fails c sts subject constraint value
  | .predicate subject predicate => mode = .insert ∧
      (∃ st ∈ sts, st.isValueOf subject predicate = true) ∧ ¬ s.Allows c sts subject predicate
  | .deletion k => mode = .delete ∧ ∃ st, sts[k]? = some st ∧ ¬ s.Declares c st.predicate

theorem accepts_iff_forall_not_violates {sts : List Statement} :
    s.Accepts c sts ↔ ∀ d, ¬ s.Violates c .insert sts d := by
  constructor
  · intro h d hd
    cases d with
    | property subject i j constraint value =>
      obtain ⟨-, shape, p, hi, hj, htargets, hfails⟩ := hd
      have hshape := List.mem_of_getElem? hi
      have hp := List.mem_of_getElem? hj
      cases value with
      | none => exact hfails (h.bounds subject shape hshape htargets p hp constraint)
      | some k =>
        obtain ⟨st, hk, hvalue, hnot⟩ := hfails
        obtain ⟨hsubject, hpredicate⟩ := Statement.isValueOf_iff.mp hvalue
        exact hnot (h.values subject shape hshape htargets p hp st (List.mem_of_getElem? hk)
          hsubject hpredicate constraint)
    | predicate subject predicate =>
      obtain ⟨-, ⟨st, hst, hvalue⟩, hnot⟩ := hd
      obtain ⟨rfl, rfl⟩ := Statement.isValueOf_iff.mp hvalue
      exact hnot (h.predicates st hst)
    | deletion k =>
      obtain ⟨hmode, -⟩ := hd
      cases hmode
  · intro h
    refine ⟨fun subject shape hshape htargets p hp constraint => ?_,
      fun subject shape hshape htargets p hp st hst hsubject hpredicate constraint => ?_,
      fun st hst => ?_⟩
    · obtain ⟨i, hi⟩ := List.mem_iff_getElem?.mp hshape
      obtain ⟨j, hj⟩ := List.mem_iff_getElem?.mp hp
      by_contra hnot
      exact h (.property subject i j constraint none) ⟨rfl, shape, p, hi, hj, htargets, hnot⟩
    · obtain ⟨i, hi⟩ := List.mem_iff_getElem?.mp hshape
      obtain ⟨j, hj⟩ := List.mem_iff_getElem?.mp hp
      obtain ⟨k, hk⟩ := List.mem_iff_getElem?.mp hst
      by_contra hnot
      exact h (.property subject i j constraint (some k)) ⟨rfl, shape, p, hi, hj, htargets, st, hk,
        Statement.isValueOf_iff.mpr ⟨hsubject, hpredicate⟩, hnot⟩
    · by_contra hnot
      exact h (.predicate st.subject st.predicate)
        ⟨rfl, ⟨st, hst, Statement.isValueOf_iff.mpr ⟨rfl, rfl⟩⟩, hnot⟩

theorem acceptsDeletion_iff_forall_not_violates {sts : List Statement} :
    s.AcceptsDeletion c sts ↔ ∀ d, ¬ s.Violates c .delete sts d := by
  constructor
  · intro h d hd
    cases d with
    | property subject i j constraint value => cases hd.1
    | predicate subject predicate => cases hd.1
    | deletion k =>
      obtain ⟨-, st, hk, hnot⟩ := hd
      exact hnot (h st (List.mem_of_getElem? hk))
  · intro h st hst
    obtain ⟨k, hk⟩ := List.mem_iff_getElem?.mp hst
    by_contra hnot
    exact h (.deletion k) ⟨rfl, st, hk, hnot⟩

/-! ### Patterns -/

/-- Whether all patterns of a schema can be read. -/
def Readable : Prop :=
  ∀ shape ∈ s.shapes, ∀ p ∈ shape.properties, ∀ text, p.pattern = some text →
    ∃ q, Pattern.read text = .ok q

end Schema

/-! ### Rules -/

/-- The rule of a property shape: its IRIs are expanded and its pattern is read. -/
def PropertyShape.rule (p : PropertyShape) : PropertyRule :=
  ⟨c.expandTerm p.path, p.minCount, p.maxCount, p.datatype.map c.expandTerm, p.nodeKind,
    p.pattern.bind fun text => (Pattern.read text).toOption,
    p.allowed.map fun vs => vs.map c.expandTerm⟩

/-- The rule of a node shape. -/
def NodeShape.rule (s : NodeShape) : NodeRule :=
  ⟨c.expandTerm s.targetClass, s.closed, s.properties.map (PropertyShape.rule c)⟩

/-- The rules of a schema. -/
def Schema.rules (s : Schema) (mode : ShapeMode) : ShapeSet :=
  ⟨s.id, mode, s.closed, s.shapes.map (NodeShape.rule c)⟩

/-- **A schema whose patterns can be read** is compiled to its rules. -/
theorem Schema.compile_eq_ok {s : Schema} (h : s.Readable) (mode : ShapeMode) :
    s.compile c mode = .ok (s.rules c mode) := by
  have hproperty : ∀ shape ∈ s.shapes, ∀ p ∈ shape.properties,
      p.compile s.id c = .ok (p.rule c) := by
    intro shape hshape p hp
    unfold PropertyShape.compile PropertyShape.readPattern PropertyShape.rule
    cases htext : p.pattern with
    | none => rfl
    | some text =>
      obtain ⟨q, hq⟩ := h shape hshape p hp text htext
      dsimp only
      rw [hq, Option.bind_some, hq]
      rfl
  have hnode : ∀ shape ∈ s.shapes, shape.compile s.id c = .ok (shape.rule c) := by
    intro shape hshape
    rw [NodeShape.compile, mapM_eq_ok_map (hproperty shape hshape)]
    rfl
  rw [compile, mapM_eq_ok_map hnode]
  rfl

theorem exists_eq_ok_of_map {ε α β : Type} {x : Except ε α} {f : α → β} {b : β}
    (h : x.map f = .ok b) : ∃ a, x = .ok a := by
  cases x with
  | ok a => exact ⟨a, rfl⟩
  | error e => cases h

theorem exists_eq_ok_of_mapM {ε α β : Type} {f : α → Except ε β} {l : List α} {l' : List β}
    (h : l.mapM f = .ok l') {a : α} (ha : a ∈ l) : ∃ b, f a = .ok b := by
  have hall : ∀ {l : List α} {l' : List β}, List.Forall₂ (fun a b => f a = .ok b) l l' →
      ∀ a ∈ l, ∃ b, f a = .ok b := by
    intro l l' hall
    induction hall with
    | nil => exact fun a ha => nomatch ha
    | cons hab _ ih => exact List.forall_mem_cons.mpr ⟨⟨_, hab⟩, ih⟩
  exact hall (mapM_eq_ok_iff.mp h) a ha

/-- **Only schemas whose patterns can be read** are compiled. -/
theorem Schema.readable_of_compile {s : Schema} {mode : ShapeMode} {rules : ShapeSet}
    (h : s.compile c mode = .ok rules) : s.Readable := by
  intro shape hshape p hp text htext
  obtain ⟨nodes, hnodes⟩ := exists_eq_ok_of_map h
  obtain ⟨node, hnode⟩ := exists_eq_ok_of_mapM hnodes hshape
  obtain ⟨properties, hproperties⟩ := exists_eq_ok_of_map hnode
  obtain ⟨property, hproperty⟩ := exists_eq_ok_of_mapM hproperties hp
  obtain ⟨pattern, hpattern⟩ := exists_eq_ok_of_map hproperty
  cases hq : Pattern.read text with
  | ok q => exact ⟨q, rfl⟩
  | error e =>
    simp only [PropertyShape.readPattern, htext, hq] at hpattern
    cases hpattern

end Context

end GraphLedger
