import GraphLedger.Failure

/-!
# Buffers

While a request is processed, its records are in a buffer. Records are added, in an order that
positions tell, and none twice; they are removed when a backend has stored them or when they are
dropped. The buffer is read with all deletions before all insertions, each in the order of addition.
It counts what was stored.
-/

namespace GraphLedger

/-! ### Filters -/

/-- Which records are wanted; what is not given does not matter. -/
structure RecordFilter where
  changeType : Option ChangeType
  subject : Option String
  predicate : Option String
  graph : Option String
  deriving DecidableEq, Inhabited, Repr

namespace RecordFilter

/-- The filter that every record passes. -/
def any : RecordFilter := ⟨none, none, none, none⟩

/-- The filter for records of a type. -/
def ofType (t : ChangeType) : RecordFilter := { any with changeType := some t }

/-- The filter for records with a predicate. -/
def ofPredicate (p : String) : RecordFilter := { any with predicate := some p }

/-- Whether a wish is fulfilled. -/
def agrees {α : Type} [DecidableEq α] (wanted : Option α) (found : α) : Bool :=
  match wanted with
  | some w => w = found
  | none => true

/-- Whether records of a type may pass. -/
def admits (f : RecordFilter) (t : ChangeType) : Bool := agrees f.changeType t

/-- Whether a record passes. -/
def accepts (f : RecordFilter) (r : Record) : Bool :=
  agrees f.changeType r.changeType && agrees f.subject r.statement.subject
    && agrees f.predicate r.statement.predicate && agrees f.graph r.statement.graph

end RecordFilter

/-! ### Records of one type -/

/-- Records in the order of their positions, and the positions of the records. -/
structure Held where
  inOrder : List (Nat × Record)
  positions : List (Record × Nat)
  deriving DecidableEq, Inhabited

namespace Held

/-- No records. -/
def empty : Held := ⟨[], []⟩

/-- The position of a record. -/
def position? (h : Held) (r : Record) : Option Nat :=
  (h.positions.find? fun p => p.1.same r).map Prod.snd

/-- Whether a record is held. -/
def has (h : Held) (r : Record) : Bool := (h.position? r).isSome

/-- Puts a record at its place among others in order, instead of the one that has its position. -/
def place (n : Nat) (r : Record) : List (Nat × Record) → List (Nat × Record)
  | [] => [(n, r)]
  | p :: rest =>
    if p.1 < n then p :: place n r rest
    else if p.1 = n then (n, r) :: rest
    else (n, r) :: p :: rest

/-- Adds a record at a position. -/
def insert (h : Held) (n : Nat) (r : Record) : Held :=
  ⟨place n r h.inOrder, (r, n) :: h.positions⟩

/-- Forgets the position of a record, and what is at that position. -/
def erase (h : Held) (r : Record) : Held :=
  match h.position? r with
  | some n => ⟨h.inOrder.filter fun p => p.1 != n, h.positions.filter fun p => !p.1.same r⟩
  | none => h

/-- The records. -/
def records (h : Held) : List Record := h.inOrder.map Prod.snd

/-- The number of records. -/
def length (h : Held) : Nat := h.inOrder.length

end Held

/-! ### Buffers -/

/-- What was left in a buffer at its end. -/
structure Discarded where
  inserts : Nat
  deletes : Nat
  deriving DecidableEq, Inhabited, Repr

/-- Whether nothing was left. -/
def Discarded.isEmpty (d : Discarded) : Bool := d.inserts == 0 && d.deletes == 0

/-- The records of a request under way. -/
structure Buffer where
  request : Request
  requestTimestamp : Instant
  inserts : Held
  deletes : Held
  nextPosition : Nat
  statistics : Statistics
  deriving DecidableEq, Inhabited

namespace Buffer

/-- The empty buffer of a request. -/
def openAt (request : Request) (time : Instant) : Buffer :=
  ⟨request, time, .empty, .empty, 0, ⟨0, 0⟩⟩

/-- The record of a statement for the request. -/
def record (b : Buffer) (t : ChangeType) (st : Statement) : Record :=
  ⟨b.request.id, b.requestTimestamp, t, st⟩

/-- The records of a type. -/
def held (b : Buffer) : ChangeType → Held
  | .insert => b.inserts
  | .delete => b.deletes

/-- The buffer with other records of a type. -/
def setHeld (b : Buffer) (t : ChangeType) (h : Held) : Buffer :=
  match t with
  | .insert => { b with inserts := h }
  | .delete => { b with deletes := h }

/-! ### Reading -/

/-- All records, deletions first. -/
def contents (b : Buffer) : List Record := b.deletes.records ++ b.inserts.records

/-- The records of the types that a filter lets pass, deletions first. -/
def ofTypes (b : Buffer) (f : RecordFilter) : List Record :=
  (if f.admits .delete then b.deletes.records else [])
    ++ (if f.admits .insert then b.inserts.records else [])

/-- The records that pass a filter, deletions first. -/
def collect (b : Buffer) (f : RecordFilter) : List Record := (b.ofTypes f).filter f.accepts

/-- The position of a record. -/
def position? (b : Buffer) (r : Record) : Option Nat := (b.held r.changeType).position? r

/-- Whether a record is held. -/
def holds (b : Buffer) (r : Record) : Bool := (b.held r.changeType).has r

/-- The number of records. -/
def size (b : Buffer) : Nat := b.inserts.length + b.deletes.length

/-- Whether there is no record. -/
def isEmpty (b : Buffer) : Bool := b.size == 0

/-- What would be lost if the buffer ended here. -/
def discarded (b : Buffer) : Discarded := ⟨b.inserts.length, b.deletes.length⟩

/-! ### Adding and removing -/

/-- Adds a record at the next position, unless it is held. -/
def addOne (b : Buffer) (r : Record) : Buffer :=
  if b.holds r then b
  else
    { b.setHeld r.changeType ((b.held r.changeType).insert b.nextPosition r) with
      nextPosition := b.nextPosition + 1 }

theorem held_addOne {b : Buffer} {r : Record} (h : ¬ b.holds r) (t : ChangeType) :
    (b.addOne r).held t =
      if t = r.changeType then (b.held t).insert b.nextPosition r else b.held t := by
  rw [addOne, if_neg h]
  cases hr : r.changeType <;> cases t <;> rfl

theorem addOne_of_holds {b : Buffer} {r : Record} (h : b.holds r) : b.addOne r = b := if_pos h

theorem nextPosition_addOne {b : Buffer} {r : Record} (h : ¬ b.holds r) :
    (b.addOne r).nextPosition = b.nextPosition + 1 := by
  rw [addOne, if_neg h]

@[simp] theorem request_addOne (b : Buffer) (r : Record) : (b.addOne r).request = b.request := by
  unfold addOne
  split
  · rfl
  · cases r.changeType <;> rfl

@[simp] theorem requestTimestamp_addOne (b : Buffer) (r : Record) :
    (b.addOne r).requestTimestamp = b.requestTimestamp := by
  unfold addOne
  split
  · rfl
  · cases r.changeType <;> rfl

@[simp] theorem statistics_addOne (b : Buffer) (r : Record) :
    (b.addOne r).statistics = b.statistics := by
  unfold addOne
  split
  · rfl
  · cases r.changeType <;> rfl

/-- Adds records one after the other. -/
def add (b : Buffer) (rs : List Record) : Buffer := rs.foldl addOne b

/-- How many records an addition brings. -/
def addedCount (b : Buffer) : List Record → Nat
  | [] => 0
  | r :: rs => (if b.holds r then 0 else 1) + (b.addOne r).addedCount rs

/-- Counts a stored record. -/
def countStored (s : Statistics) : ChangeType → Statistics
  | .insert => { s with inserts := s.inserts + 1 }
  | .delete => { s with deletes := s.deletes + 1 }

/-- Removes a record if it is held, and counts it if it was stored. -/
def removeOne (b : Buffer) (stored : Bool) (r : Record) : Buffer :=
  if b.holds r then
    { b.setHeld r.changeType ((b.held r.changeType).erase r) with
      statistics := if stored then countStored b.statistics r.changeType else b.statistics }
  else b

theorem removeOne_of_not_holds {b : Buffer} {r : Record} (stored : Bool) (h : ¬ b.holds r) :
    b.removeOne stored r = b := if_neg h

theorem held_removeOne {b : Buffer} {r : Record} (stored : Bool) (h : b.holds r)
    (t : ChangeType) :
    (b.removeOne stored r).held t =
      if t = r.changeType then (b.held t).erase r else b.held t := by
  rw [removeOne, if_pos h]
  cases hr : r.changeType <;> cases t <;> rfl

@[simp] theorem request_removeOne (b : Buffer) (stored : Bool) (r : Record) :
    (b.removeOne stored r).request = b.request := by
  unfold removeOne
  split
  · cases r.changeType <;> rfl
  · rfl

@[simp] theorem nextPosition_removeOne (b : Buffer) (stored : Bool) (r : Record) :
    (b.removeOne stored r).nextPosition = b.nextPosition := by
  unfold removeOne
  split
  · cases r.changeType <;> rfl
  · rfl

theorem count_statistics_removeOne (b : Buffer) (stored : Bool) (r : Record) (t : ChangeType) :
    (b.removeOne stored r).statistics.count t =
      b.statistics.count t + if b.holds r ∧ stored ∧ r.changeType = t then 1 else 0 := by
  unfold removeOne
  by_cases h : b.holds r
  · cases stored <;> cases hr : r.changeType <;> cases t <;>
      simp [h, countStored, Statistics.count]
  · simp [h]

/-- Removes records one after the other. -/
def remove (b : Buffer) (rs : List Record) (stored : Bool) : Buffer :=
  rs.foldl (removeOne · stored) b

/-- How many records a removal takes. -/
def removedCount (b : Buffer) (rs : List Record) (stored : Bool) : Nat :=
  match rs with
  | [] => 0
  | r :: rs => (if b.holds r then 1 else 0) + (b.removeOne stored r).removedCount rs stored

end Buffer

end GraphLedger
