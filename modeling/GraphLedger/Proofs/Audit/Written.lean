import GraphLedger.Audit.ChangeLog
import GraphLedger.Audit.Outbox
import Mathlib.Data.List.Basic

/-! # What is written and published

A change log keeps one report for each request of a pod: writing a report puts it where the earlier
one was, and leaves every other request with the report that it had. An outbox that has a subscriber
takes an event to its end, and drops from its start what it has no room for.

* `get?_write`: what a change log answers after a report was written.
* `Outbox.exists_publish`: what an outbox holds after an event. -/

namespace GraphLedger

namespace ChangeLog

/-! ### Writing a report -/

theorem find?_put (r : Report) (id : String) : ∀ rs : List Report,
    (put r rs).find? (fun x => x.id == id) =
      if id = r.id then some r else rs.find? fun x => x.id == id
  | [] => by
    by_cases hid : id = r.id
    · simp [put, hid]
    · have hne : (r.id == id) = false := by simpa using fun h => hid h.symm
      simp [put, hid, hne]
  | old :: rs => by
    have ih := find?_put r id rs
    rw [put]
    by_cases hold : old.id = r.id
    · -- the report takes the place of the old one, which no other identifier finds
      by_cases hid : id = r.id
      · simp [hold, hid]
      · have hne : (r.id == id) = false := by simpa using fun h => hid h.symm
        simp [hold, hid, hne]
    · rw [if_neg hold, List.find?_cons, ih]
      by_cases hid : id = r.id
      · have hne : (old.id == id) = false := by simpa [hid] using hold
        rw [if_pos hid, if_pos hid, hne]
      · rw [if_neg hid, if_neg hid, List.find?_cons]

theorem ofPod_write (r : Report) (podId : String) (log : ChangeLog) :
    (log.write r).ofPod podId =
      if podId = r.podId then put r (log.ofPod podId) else log.ofPod podId := by
  induction log with
  | nil =>
    by_cases hp : podId = r.podId
    · simp [write, ofPod, put, hp]
    · have hne : (podId == r.podId) = false := by simpa using hp
      simp [write, ofPod, List.lookup_cons, hp, hne]
  | cons e log ih =>
    obtain ⟨p, rs⟩ := e
    unfold ofPod at ih ⊢
    rw [write]
    by_cases hr : p = r.podId
    · by_cases hp : podId = p
      · subst hp; simp [hr]
      · have hne : (podId == p) = false := by simpa using hp
        have hpod : podId ≠ r.podId := fun h => hp (h.trans hr.symm)
        rw [if_pos hr, if_neg hpod, List.lookup_cons, List.lookup_cons, hne]
    · rw [if_neg hr]
      by_cases hp : podId = p
      · subst hp; simp [hr]
      · have hne : (podId == p) = false := by simpa using hp
        simpa [List.lookup_cons, hne] using ih

/-- **Writing a report** replaces the one on the same request, and no other. -/
theorem get?_write (r : Report) (log : ChangeLog) (podId id : String) :
    (log.write r).get? podId id =
      if podId = r.podId ∧ id = r.id then some r else log.get? podId id := by
  unfold get?
  rw [ofPod_write]
  by_cases hp : podId = r.podId
  · rw [if_pos hp, find?_put]
    simp [hp]
  · simp [hp]

end ChangeLog

/-! ### Publishing an event -/

/-- **Publishing** puts the event behind those that wait, of which the oldest make room for it. -/
theorem Outbox.exists_publish {o : Outbox} (hsubscribed : o.subscribed = true)
    (hcapacity : 0 < o.capacity) (e : Event) :
    ∃ k ≤ o.waiting.length, o.publish e =
      { o with waiting := o.waiting.drop k ++ [e], missed := o.missed + k } := by
  have hk : o.waiting.length + 1 - o.capacity ≤ o.waiting.length := by omega
  refine ⟨o.waiting.length + 1 - o.capacity, hk, ?_⟩
  simp only [publish, hsubscribed, Bool.not_true, Bool.false_eq_true, if_false, List.length_append,
    List.length_singleton, List.drop_append_of_le_length hk]

end GraphLedger
