import GraphLedger.Statement
import GraphLedger.Time.Instant

/-!
# Records

A record is the insertion or deletion of a statement by a change request. Two records are the same
if request, type and statement are; the time of the request does not count.
-/

namespace GraphLedger

/-- Whether a statement is inserted or deleted. -/
inductive ChangeType where
  | insert
  | delete
  deriving DecidableEq, Inhabited, Repr

namespace ChangeType

/-- The name of a type in records. -/
def name : ChangeType → String
  | .insert => "INSERT"
  | .delete => "DELETE"

/-- The name of a type in a sentence. -/
def lowerName : ChangeType → String
  | .insert => "insert"
  | .delete => "delete"

/-- The type of a name. -/
def ofName? (s : String) : Option ChangeType :=
  if s = "INSERT" then some .insert else if s = "DELETE" then some .delete else none

end ChangeType

/-- A change of one statement. -/
structure Record where
  changeRequestId : String
  requestTimestamp : Instant
  changeType : ChangeType
  statement : Statement
  deriving DecidableEq, Inhabited, Repr

namespace Record

/-- Whether two records make the same change for the same request. -/
def same (a b : Record) : Bool :=
  a.changeRequestId = b.changeRequestId && a.changeType = b.changeType && a.statement = b.statement

theorem same_iff {a b : Record} : a.same b = true ↔ a.changeRequestId = b.changeRequestId ∧
    a.changeType = b.changeType ∧ a.statement = b.statement := by
  simp [same, and_assoc]

@[simp] theorem same_refl (a : Record) : a.same a = true := same_iff.mpr ⟨rfl, rfl, rfl⟩

theorem same_comm (a b : Record) : a.same b = b.same a := by
  rw [Bool.eq_iff_iff, same_iff, same_iff]
  exact ⟨fun ⟨h1, h2, h3⟩ => ⟨h1.symm, h2.symm, h3.symm⟩,
    fun ⟨h1, h2, h3⟩ => ⟨h1.symm, h2.symm, h3.symm⟩⟩

theorem same_trans {a b c : Record} (h : a.same b = true) (h' : b.same c = true) :
    a.same c = true := by
  obtain ⟨h1, h2, h3⟩ := same_iff.mp h
  obtain ⟨h1', h2', h3'⟩ := same_iff.mp h'
  exact same_iff.mpr ⟨h1.trans h1', h2.trans h2', h3.trans h3'⟩

/-- Whether the statement is inserted. -/
def isInsert (r : Record) : Bool := r.changeType = .insert

/-- Whether the statement is deleted. -/
def isDelete (r : Record) : Bool := r.changeType = .delete

/-- How a record is shown. -/
def display (r : Record) : String := r.changeType.name ++ " " ++ r.statement.display

/-- The fields of a record. -/
def layout : Json.Layout :=
  [["changeRequestId"], ["requestTimestamp"], ["type"], ["statement"]]

/-- A record as JSON. -/
def toJson (r : Record) : Json :=
  .object [("changeRequestId", .string r.changeRequestId),
    ("requestTimestamp", .string r.requestTimestamp.toText),
    ("type", .string r.changeType.name), ("statement", r.statement.toJson)]

/-- The instant that JSON writes. -/
def instantOfJson? (v : Json) : Option Instant := v.asString?.bind Instant.read?

/-- The type that JSON writes. -/
def typeOfJson? (v : Json) : Option ChangeType := (Json.decodeName v).bind ChangeType.ofName?

/-- The record that JSON writes. -/
def ofJson? (v : Json) : Option Record := do
  match ← Json.fieldsOf? layout v with
  | [id, timestamp, type, statement] =>
    let id ← Json.required Json.decodeString id
    let timestamp ← Json.required instantOfJson? timestamp
    let type ← Json.required typeOfJson? type
    let statement ← Json.required Statement.ofJson? statement
    some ⟨id, timestamp, type, statement⟩
  | _ => none

end Record

end GraphLedger
