import GraphLedger.Shape.ShapeSet
import GraphLedger.Record

/-!
# Validation

Records are checked against the shapes of a slice. Insertions are grouped by subject, and each
subject is held against the shapes of its classes, by the inserted statements alone. Deletions need
only be of predicates that the slice declares.
-/

namespace GraphLedger

/-- Which demand a violation is of. -/
inductive Constraint where
  | minCount
  | maxCount
  | nodeKind
  | datatype
  | pattern
  | allowed
  | closed
  deriving DecidableEq, Inhabited, Repr

/-- The name of a demand. -/
def Constraint.name : Constraint → String
  | .minCount => "minCount"
  | .maxCount => "maxCount"
  | .nodeKind => "nodeKind"
  | .datatype => "datatype"
  | .pattern => "pattern"
  | .allowed => "in"
  | .closed => "closed"

/-- A demand that a subject does not meet. -/
structure Violation where
  focusNode : String
  resultPath : Option String
  sourceShape : Option String
  constraint : Constraint
  message : String
  value : Option String
  deriving DecidableEq, Inhabited, Repr

namespace Violation

/-- A violation as JSON. -/
def toJson (v : Violation) : Json :=
  Json.ofFields [("constraint", some (.string v.constraint.name)),
    ("focusNode", some (.string v.focusNode)), ("message", some (.string v.message)),
    ("resultPath", v.resultPath.map .string), ("sourceShape", v.sourceShape.map .string),
    ("value", v.value.map .string)]

/-- A violation of a property shape. -/
def ofRule (focus : String) (shape : NodeRule) (rule : PropertyRule) (constraint : Constraint)
    (message : String) (value : Option Object) : Violation :=
  ⟨focus, some rule.path, some shape.targetClass, constraint, message, value.map Object.text⟩

/-- A predicate that is not allowed. -/
def ofPredicate (focus predicate message : String) : Violation :=
  ⟨focus, some predicate, none, .closed, message, none⟩

end Violation

/-! ### Properties -/

/-- The datatype of a literal. -/
def Statement.effectiveDatatype (st : Statement) : String := st.dataType.getD Vocabulary.xsdString

namespace PropertyRule

/-- The violation by the number of values, at most one for each bound. -/
def checkCounts (focus : String) (shape : NodeRule) (rule : PropertyRule) (count : Nat) :
    List Violation :=
  let found := " value(s) but found " ++ toString count
  let least := match rule.minCount with
    | some n =>
      if count < n then
        [.ofRule focus shape rule .minCount ("Expected at least " ++ toString n ++ found) none]
      else []
    | none => []
  let most := match rule.maxCount with
    | some n =>
      if n < count then
        [.ofRule focus shape rule .maxCount ("Expected at most " ++ toString n ++ found) none]
      else []
    | none => []
  least ++ most

/-- The message for a value that is not of the right kind. -/
def kindFault? (rule : PropertyRule) (st : Statement) : Option String := do
  let kind ← rule.nodeKind
  if kind.admits st.object then none else some ("Value is not of node kind " ++ kind.name)

/-- The message for a value that is not of the right datatype. -/
def datatypeFault? (rule : PropertyRule) (st : Statement) : Option String := do
  let datatype ← rule.datatype
  if st.object.isIri || st.effectiveDatatype != datatype then
    some ("Value is not of datatype " ++ datatype)
  else none

/-- The message for a value that does not match. -/
def patternFault? (rule : PropertyRule) (st : Statement) : Option String := do
  let pattern ← rule.pattern
  if pattern.isMatch st.object.text then none
  else some ("Value does not match pattern '" ++ pattern.source ++ "'")

/-- The message for a value that is not in the list. -/
def allowedFault? (rule : PropertyRule) (st : Statement) : Option String := do
  let allowed ← rule.allowed
  if allowed.contains st.object.text then none else some "Value is not in the allowed list"

/-- The violations by one value. -/
def checkValue (focus : String) (shape : NodeRule) (rule : PropertyRule) (st : Statement) :
    List Violation :=
  [(Constraint.nodeKind, rule.kindFault? st), (.datatype, rule.datatypeFault? st),
    (.pattern, rule.patternFault? st), (.allowed, rule.allowedFault? st)].filterMap fun c =>
      c.2.map fun message => .ofRule focus shape rule c.1 message (some st.object)

/-- The violations by the values of a property. -/
def check (focus : String) (shape : NodeRule) (rule : PropertyRule) (values : List Statement) :
    List Violation :=
  rule.checkCounts focus shape values.length ++ values.flatMap (rule.checkValue focus shape)

end PropertyRule

/-! ### Subjects -/

/-- The values of a predicate among the statements of a subject. -/
def valuesOf (sts : List Statement) (predicate : String) : List Statement :=
  sts.filter fun st => st.predicate = predicate

/-- The classes of a subject. -/
def classesOf (sts : List Statement) : List String :=
  (valuesOf sts Vocabulary.rdfType).map fun st => st.object.text

namespace ShapeSet

/-- The shapes for a subject with some statements. -/
def rulesFor (s : ShapeSet) (sts : List Statement) : List NodeRule :=
  s.rules.filter fun r => (classesOf sts).contains r.targetClass

/-- Whether a subject may not have a predicate. -/
def forbids (s : ShapeSet) (rules : List NodeRule) (predicate : String) : Bool :=
  predicate != Vocabulary.rdfType
    && ((rules.any NodeRule.closed
        && !rules.any fun r => r.properties.any fun p => p.path = predicate)
      || (s.closed && !s.declares predicate))

/-- The predicates of statements, each once, in the order of their texts. -/
def predicatesOf (sts : List Statement) : List String :=
  ((sts.map Statement.predicate).eraseDups).mergeSort fun a b => decide (a ≤ b)

/-- The violations by the statements of one subject. -/
def checkSubject (s : ShapeSet) (subject : String) (sts : List Statement) : List Violation :=
  let rules := s.rulesFor sts
  let byRules := rules.flatMap fun r =>
    r.properties.flatMap fun p => p.check subject r (valuesOf sts p.path)
  let forbidden := (predicatesOf sts).filter (s.forbids rules)
  byRules ++ forbidden.map fun p =>
    .ofPredicate subject p "Predicate is not allowed by a closed shape"

/-- The subjects of statements, each once, in the order in which they first occur. -/
def subjectsOf (sts : List Statement) : List String := (sts.map Statement.subject).eraseDups

/-- The violations by inserted statements. -/
def checkInserts (s : ShapeSet) (sts : List Statement) : List Violation :=
  (subjectsOf sts).flatMap fun subject =>
    s.checkSubject subject (sts.filter fun st => st.subject = subject)

/-- The violations by deleted statements. -/
def checkDeletes (s : ShapeSet) (sts : List Statement) : List Violation :=
  (sts.filter fun st => !s.declares st.predicate).map fun st =>
    .ofPredicate st.subject st.predicate
      ("Predicate is not declared by slice '" ++ s.sliceId ++ "'")

/-- The violations by records. -/
def check (s : ShapeSet) (rs : List Record) : List Violation :=
  let sts := rs.map Record.statement
  match s.mode with
  | .insert => s.checkInserts sts
  | .delete => s.checkDeletes sts

end ShapeSet

/-- The report of a check. -/
def validationReport (vs : List Violation) : Json :=
  .object [("conforms", .bool vs.isEmpty), ("results", .array (vs.map Violation.toJson))]

end GraphLedger
