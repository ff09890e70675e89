import GraphLedger.Proofs.Report.Calls

/-! # The history of a report

The report of a request that waits has one entry in its history. A call looks at the last entry only:
if that is final, the call adds nothing, and if not, it adds its entry behind it, whatever status it
brings, be it that a failure says a request is queued or was carried out. This is enough for no entry
but the last to be final, since an entry comes to stand before others only while it is the last and
not final.

* `history_call`: what one call adds.
* `Begun`: what holds of a history from its first entry on; `Begun.call`, `begun_calls`.
* `history_append_only`: what holds of the history of a report after any calls. -/

namespace GraphLedger.Report

/-- **What a call adds** to the history: its entry, unless the last entry is final. -/
theorem history_call (r : Report) (x : Call) :
    (r.call x).history = if r.isFinished then r.history else r.history ++ [x.entry] := by
  rw [call_eq]

/-- A history that began with an entry, and of which no entry but the last is final. -/
structure Begun (first : StatusEntry) (history : List StatusEntry) : Prop where
  head : history.head? = some first
  unfinished : ∀ e ∈ history.dropLast, e.status.isFinal = false

namespace Begun
variable {first : StatusEntry} {r : Report} (h : Begun first r.history)
include h

theorem exists_last : ∃ e, r.history.getLast? = some e ∧ r.status = e.status := by
  cases hlast : r.history.getLast? with
  | none =>
    have hhead := h.head
    rw [List.getLast?_eq_none_iff.mp hlast] at hhead
    cases hhead
  | some e => exact ⟨e, rfl, status_of_getLast? hlast⟩

/-- **A call keeps the first entry**, and makes no entry but the last final. -/
theorem call (x : Call) : Begun first (r.call x).history := by
  rw [history_call]
  split
  · exact h
  · rename_i hopen
    obtain ⟨e, hlast, hstatus⟩ := h.exists_last
    have he : e.status.isFinal = false := by
      rw [← hstatus]
      exact Bool.eq_false_iff.mpr hopen
    refine ⟨?_, fun a ha => ?_⟩
    · rw [List.head?_append, h.head]
      rfl
    · -- the entry that was the last is no longer, and it is not final
      obtain ⟨before, hr⟩ := List.getLast?_eq_some_iff.mp hlast
      have hbefore := h.unfinished
      rw [hr, List.dropLast_concat] at hbefore
      rw [List.dropLast_concat, hr] at ha
      rcases List.mem_append.mp ha with ha | ha
      · exact hbefore a ha
      · exact List.mem_singleton.mp ha ▸ he

end Begun

theorem begun_queued (q : Request) (time : Instant) :
    Begun ⟨time, .queued, none⟩ (queued q time).history where
  head := rfl
  unfinished _ he := absurd he List.not_mem_nil

/-- **Calls in a row** keep what each of them keeps. -/
theorem begun_calls {first : StatusEntry} {r : Report} (h : Begun first r.history)
    (xs : List Call) : Begun first (r.calls xs).history := by
  induction xs generalizing r with
  | nil => exact h
  | cons x xs ih => exact ih (h.call x)

theorem history_calls_of_finished {r : Report} (h : r.isFinished = true) (xs : List Call) :
    (r.calls xs).history = r.history := by
  rw [calls_eq, h]
  rfl

/-- **Histories grow at their end, and only until a final entry.** Whatever calls a report has seen
since its request was queued, the history begins with the entry of that, with its time, and no entry
but the last is final. The status of the report is that of the last entry. A further call leaves the
history as it is and adds one entry at most: if the last entry is final, neither this call nor any
that come after it add one; and if it is not, the call adds its own entry. -/
theorem history_append_only (q : Request) (time : Instant) (xs : List Call) :
    let r := (queued q time).calls xs
    r.history.head? = some ⟨time, .queued, none⟩ ∧
    (∀ e ∈ r.history.dropLast, e.status.isFinal = false) ∧
    (∀ y, ∃ added, (r.call y).history = r.history ++ added ∧ added.length ≤ 1) ∧
    ∃ last, r.history.getLast? = some last ∧ r.status = last.status ∧
      (last.status.isFinal = true → ∀ ys, (r.calls ys).history = r.history) ∧
      (last.status.isFinal = false → ∀ y, (r.call y).history = r.history ++ [y.entry]) := by
  intro r
  have h : Begun ⟨time, .queued, none⟩ r.history := begun_calls (begun_queued q time) xs
  obtain ⟨last, hlast, hstatus⟩ := h.exists_last
  have hfinished : r.isFinished = last.status.isFinal := congrArg Status.isFinal hstatus
  refine ⟨h.head, h.unfinished, fun y => ?_, last, hlast, hstatus, fun hfinal ys => ?_,
    fun hopen y => ?_⟩
  · rw [history_call]
    split
    · exact ⟨[], (List.append_nil _).symm, Nat.zero_le 1⟩
    · exact ⟨[y.entry], rfl, Nat.le_refl 1⟩
  · exact history_calls_of_finished (hfinished.trans hfinal) ys
  · rw [history_call, hfinished, hopen]
    rfl

/-- A failure that says the request is queued does not end the history, and one that says it was
carried out does; what is pushed after that is left out. -/
theorem history_append_only_of_failures :
    let q := Request.new "01HZY3V4E0000000000000000A" "pod-1"
    let waiting : Call := .fail ⟨1, 0⟩ .queued "later"
    let carriedOut : Call := .fail ⟨2, 0⟩ .committed "done"
    let r := (queued q ⟨0, 0⟩).calls [waiting, carriedOut]
    ((queued q ⟨0, 0⟩).calls [waiting]).history =
        [⟨⟨0, 0⟩, .queued, none⟩, ⟨⟨1, 0⟩, .queued, some "later"⟩] ∧
      (((queued q ⟨0, 0⟩).calls [waiting]).call carriedOut).history = r.history ∧
      r.status = .committed ∧ ∀ ys, (r.calls ys).history = r.history := by
  intro q waiting carriedOut r
  obtain ⟨-, -, -, before, hbefore, -, -, hopen⟩ := history_append_only q ⟨0, 0⟩ [waiting]
  obtain ⟨-, -, -, last, hlast, hstatus, hclosed, -⟩ :=
    history_append_only q ⟨0, 0⟩ [waiting, carriedOut]
  cases hbefore
  cases hlast
  exact ⟨rfl, hopen rfl carriedOut, hstatus, hclosed rfl⟩

end GraphLedger.Report
