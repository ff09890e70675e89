import GraphLedger.Text.Blank

/-!
# Stages

The stages that a configuration can name. Three work on the buffer of a request; a storage stage
stores in the backend that it names.
-/

namespace GraphLedger

/-- A stage of processing a request. -/
inductive StageId where
  | assertions
  | materialize
  | conformance
  | storage (backendId : String)
  deriving DecidableEq, Inhabited, Repr

namespace StageId

/-- How the name of a storage stage begins. -/
def storageStart : String := "storage:"

/-- The name of a stage. -/
def name : StageId → String
  | .assertions => "assertions"
  | .materialize => "materialize"
  | .conformance => "conformance"
  | .storage id => storageStart ++ id

/-- The stage of a name; a storage stage must name a backend. -/
def ofName? (s : String) : Option StageId :=
  if s = "assertions" then some .assertions
  else if s = "materialize" then some .materialize
  else if s = "conformance" then some .conformance
  else
    match Text.stripStart? storageStart s with
    | some id => if id.isEmpty then none else some (.storage id)
    | none => none

/-- Whether the stage stores. -/
def isStorage : StageId → Bool
  | .storage _ => true
  | _ => false

@[simp] theorem isStorage_assertions : assertions.isStorage = false := rfl

@[simp] theorem isStorage_materialize : materialize.isStorage = false := rfl

@[simp] theorem isStorage_conformance : conformance.isStorage = false := rfl

@[simp] theorem isStorage_storage (id : String) : (storage id).isStorage = true := rfl

/-- The backend in which the stage stores. -/
def backendId? : StageId → Option String
  | .storage id => some id
  | _ => none

end StageId

end GraphLedger
