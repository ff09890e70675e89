import GraphLedger.Pipeline.Store
import GraphLedger.Proofs.Storage.Commit
import Mathlib.Data.List.Forall2

/-! # Withdrawing records

A backend withdraws the records of a request of a pod, and says how many there were. All others stay
where they are: those of other requests of the pod in their order, and those of other pods. If a
backend has received records of a request that had none before, withdrawing them gives the backend
the records that it had.

* `Backend.withdrawn_rollback`: what is left when a request was taken back.
* `Backend.rollbackCount_eq`: how many records that takes.
* `Backend.Withdrawn.alike_of_receiving`: it undoes what was received. -/

namespace GraphLedger

theorem RecordLog.ofPod_withdraw (podId requestId : String) (q : String) (log : RecordLog) :
    (log.withdraw podId requestId).ofPod q =
      if q = podId then (log.ofPod q).filter fun x => x.changeRequestId != requestId
      else log.ofPod q := by
  induction log with
  | nil => simp [withdraw, ofPod]
  | cons e log ih =>
    obtain ⟨p, rs⟩ := e
    unfold withdraw ofPod at ih ⊢
    rw [List.map_cons]
    by_cases hq : q = p
    · subst hq
      by_cases hp : q = podId <;> simp [hp]
    · have hne : (q == p) = false := by simpa using hq
      by_cases hp : p = podId
      · subst hp
        simpa [List.lookup_cons, hne] using ih
      · simpa [List.lookup_cons, hp, hne] using ih

namespace Backend

/-- One backend holds the same records as another, for every pod in the same order. -/
structure Alike (m m' : Backend) : Prop where
  id : m'.id = m.id
  selector : m'.selector = m.selector
  records : ∀ podId, m'.log.ofPod podId = m.log.ofPod podId

/-- A backend after the records of a request of a pod have been taken out of it: all others are
where they were. -/
structure Withdrawn (podId requestId : String) (m m' : Backend) : Prop where
  id : m'.id = m.id
  selector : m'.selector = m.selector
  withdrawn : m'.log.ofPod podId =
    (m.log.ofPod podId).filter fun x => x.changeRequestId != requestId
  others : ∀ q, q ≠ podId → m'.log.ofPod q = m.log.ofPod q

/-- The records of a request in a pod. -/
def recordsOf (m : Backend) (podId requestId : String) : List Record :=
  (m.log.ofPod podId).filter fun x => x.changeRequestId == requestId

variable (m : Backend) (podId requestId : String)

/-- **Taking back** removes the records of the request, and no other. -/
theorem withdrawn_rollback : Withdrawn podId requestId m (m.rollback podId requestId) where
  id := rfl
  selector := rfl
  withdrawn := by
    rw [rollback, RecordLog.ofPod_withdraw, if_pos rfl]
  others q hq := by
    rw [rollback, RecordLog.ofPod_withdraw, if_neg hq]

/-- **What is counted** are the records of the request. -/
theorem rollbackCount_eq :
    m.rollbackCount podId requestId = (m.recordsOf podId requestId).length := by
  have hall : m.podSize podId = (m.recordsOf podId requestId).length +
      (m.rollback podId requestId).podSize podId := by
    rw [podSize, podSize, (m.withdrawn_rollback podId requestId).withdrawn]
    exact List.length_eq_length_filter_add fun x : Record => x.changeRequestId == requestId
  rw [rollbackCount, hall, Nat.add_sub_cancel]

variable {m podId requestId} {m' : Backend}

theorem Withdrawn.recordsOf (h : Withdrawn podId requestId m m') :
    m'.recordsOf podId requestId = [] := by
  rw [Backend.recordsOf, h.withdrawn, List.filter_eq_nil_iff]
  intro x hx
  simpa using (List.mem_filter.mp hx).2

section Receiving
variable {rs : List Record} (hnone : ∀ x ∈ m.log.ofPod podId, x.changeRequestId ≠ requestId)
  (hrs : ∀ x ∈ rs, x.changeRequestId = requestId)
include hnone hrs

/-- **Taking back undoes** what a request has appended that was the first with its identifier. -/
theorem Withdrawn.alike_of_receiving (h : Withdrawn podId requestId (m.receiving podId rs) m') :
    m.Alike m' where
  id := h.id.trans (m.id_receiving podId rs)
  selector := h.selector.trans (m.selector_receiving podId rs)
  records q := by
    by_cases hq : q = podId
    · have hold : (m.log.ofPod podId).filter (fun x => x.changeRequestId != requestId) =
          m.log.ofPod podId :=
        List.filter_eq_self.mpr fun x hx => by simpa using hnone x hx
      have hnew : rs.filter (fun x => x.changeRequestId != requestId) = [] :=
        List.filter_eq_nil_iff.mpr fun x hx => by simpa using hrs x hx
      rw [hq, h.withdrawn, ofPod_receiving, if_pos rfl, List.filter_append, hold, hnew,
        List.append_nil]
    · rw [h.others q hq, ofPod_receiving, if_neg hq, List.append_nil]

theorem recordsOf_receiving : (m.receiving podId rs).recordsOf podId requestId = rs := by
  have hold : (m.log.ofPod podId).filter (fun x => x.changeRequestId == requestId) = [] :=
    List.filter_eq_nil_iff.mpr fun x hx => by simpa using hnone x hx
  have hnew : rs.filter (fun x => x.changeRequestId == requestId) = rs :=
    List.filter_eq_self.mpr fun x hx => by simpa using hrs x hx
  rw [recordsOf, ofPod_receiving, if_pos rfl, List.filter_append, hold, hnew, List.nil_append]

end Receiving

end Backend

theorem Backend.forall₂_withdrawn (podId requestId : String) (backends : List Backend) :
    List.Forall₂ (Withdrawn podId requestId) backends
      (backends.map fun m => m.rollback podId requestId) :=
  List.forall₂_map_right_iff.mpr
    (List.forall₂_same.mpr fun m _ => m.withdrawn_rollback podId requestId)

end GraphLedger
