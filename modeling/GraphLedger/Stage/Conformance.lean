import GraphLedger.Shape.Validation
import GraphLedger.Stage.Step

/-!
# Conformance

The records of a request that is bound to a slice are held against the schema of the slice, the
insertions and the deletions each by themselves.
-/

namespace GraphLedger.Conformance

/-- The schemas of the slices of pods. -/
abbrev Schemas := List ((String × String) × Schema)

/-- Keeps the schema of a slice of a pod. -/
def Schemas.insert (s : Schemas) (podId : String) (schema : Schema) : Schemas :=
  ((podId, schema.id), schema) :: s.filter fun p => p.1 != (podId, schema.id)

/-- The failure of records that do not conform. -/
def failure (sliceId : String) (t : ChangeType) (count : Nat) (vs : List Violation) : Failure :=
  .conformance (toString count ++ " " ++ t.lowerName ++ " record(s) violate "
    ++ toString vs.length ++ " constraint(s) of slice '" ++ sliceId ++ "'") (validationReport vs)

/-- The side of a change that records of a type are. -/
def modeOf : ChangeType → ShapeMode
  | .insert => .insert
  | .delete => .delete

/-- Checks the records of a type; there need be no shapes if there are no records. -/
def checkRecords (schema : Schema) (c : JsonLd.Context) (sliceId : String) (t : ChangeType)
    (rs : List Record) : Except Failure Unit :=
  if rs.isEmpty then .ok ()
  else
    match schema.compile c (modeOf t) with
    | .error e => .error e.toFailure
    | .ok shapes =>
      let vs := shapes.check rs
      if vs.isEmpty then .ok () else .error (failure sliceId t rs.length vs)

/-- Checks a buffer against the schema of the slice of its request. -/
def check (schemas : Schemas) (b : Buffer) : Except Failure Unit :=
  match b.request.sliceId with
  | none => .ok ()
  | some sliceId =>
    match schemas.lookup (b.request.podId, sliceId) with
    | none => .error (.validation ("slice '" ++ sliceId ++ "' of pod '" ++ b.request.podId
        ++ "' has no schema"))
    | some schema => do
      let c ← (JsonLd.Context.parse b.request.context).mapError JsonLd.Fault.toFailure
      checkRecords schema c sliceId .insert (b.collect (.ofType .insert))
      checkRecords schema c sliceId .delete (b.collect (.ofType .delete))

/-- Checks the records of the request. -/
def stage (schemas : Schemas) : Step Unit := do
  Step.ofExcept (check schemas (← Step.buffer))

end GraphLedger.Conformance
