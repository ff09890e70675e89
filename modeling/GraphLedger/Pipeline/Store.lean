import GraphLedger.Backend
import GraphLedger.Failure

/-!
# Stores

A store of a pipeline is a backend, or one that cannot store: it claims everything, holds nothing,
and fails when it is to store or to take back.
-/

namespace GraphLedger

/-- A store of records. -/
inductive RecordStore where
  | memory (backend : Backend)
  | failing (id : String) (failure : Failure)
  deriving DecidableEq, Inhabited

namespace RecordStore

/-- The identifier of a store. -/
def id : RecordStore → String
  | .memory b => b.id
  | .failing id _ => id

/-- Whether a store claims everything. -/
def claimsAll : RecordStore → Bool
  | .memory b => b.selector.claimsAll
  | .failing _ _ => true

/-- Stores what is claimed of a buffer; both as they are afterwards. -/
def commit (s : RecordStore) (b : Buffer) : Except Failure (RecordStore × Buffer) :=
  match s with
  | .memory m => .ok (.memory (m.commit b).1, (m.commit b).2)
  | .failing _ e => .error e

/-- The wanted records. -/
def stream (s : RecordStore) (q : RecordsQuery) : List Record :=
  match s with
  | .memory b => b.stream q
  | .failing _ _ => []

/-- A page of the wanted records. -/
def get (s : RecordStore) (q : RecordsQuery) : Except Cursor.Fault (Page Record) :=
  match s with
  | .memory b => b.get q
  | .failing _ _ => .ok .empty

/-- Takes the records of a request back, and says how many there were. -/
def rollback (s : RecordStore) (podId requestId : String) : Except Failure (Nat × RecordStore) :=
  match s with
  | .memory b => .ok (b.rollbackCount podId requestId, .memory (b.rollback podId requestId))
  | .failing _ e => .error e

/-! ### Several stores -/

/-- Stores in the store of an identifier. -/
def commitIn (id : String) : List RecordStore → Buffer → Except Failure (List RecordStore × Buffer)
  | [], b => .ok ([], b)
  | s :: rest, b =>
    if s.id = id then (s.commit b).map fun (s, b) => (s :: rest, b)
    else (commitIn id rest b).map fun (rest, b) => (s :: rest, b)

/-- Takes the records of a request back from each store in turn, up to one that fails. The stores
are given as they are then. -/
def rollbackAll (podId requestId : String) :
    List RecordStore → Except Failure Nat × List RecordStore
  | [] => (.ok 0, [])
  | s :: rest =>
    match s.rollback podId requestId with
    | .error e => (.error e, s :: rest)
    | .ok (n, s) =>
      let (m, rest) := rollbackAll podId requestId rest
      (m.map fun m => n + m, s :: rest)

end RecordStore

end GraphLedger
