import GraphLedger.Report

/-! # Calls on a report

After a report is made, it is changed by calls: a status is pushed, or the request is carried out,
or it fails. The history is guarded: once there is a final status, no call adds to it. The counters
and the message are not guarded. A call that carries out or fails writes them also when the report
is finished. So of several such calls the history shows the first, and the counters and the message
show the last, and a report is coherent only if that makes no difference.

* `call_eq`: all that one call changes.
* `calls_eq`: what a report is after any calls.
* `told_by_last_calls`: what holds of a finished report, and when it is coherent. -/

namespace GraphLedger.Report

/-- A call that changes a report. -/
inductive Call where
  | push (now : Instant) (status : Status) (message : Option String)
  | commit (now : Instant) (statistics : Statistics)
  | fail (now : Instant) (status : Status) (message : String)
  deriving DecidableEq

namespace Call

/-- The entry that a call adds to the history. -/
def entry : Call → StatusEntry
  | push now status message => ⟨now, status, message⟩
  | commit now _ => ⟨now, .committed, none⟩
  | fail now status message => ⟨now, status, some message⟩

/-- Whether a call brings the history to its end. -/
def closes (x : Call) : Bool := x.entry.status.isFinal

/-- The counters that a call writes. -/
def statistics? : Call → Option Statistics
  | push .. => none
  | commit _ statistics => some statistics
  | fail .. => some ⟨0, 0⟩

/-- The message that a call writes. -/
def errorMessage? : Call → Option String
  | push .. => none
  | commit .. => none
  | fail _ _ message => some message

/-- Whether a call is meant as it is named: a status that is pushed is not final, and one with which
a request fails is that of a failure. -/
def Proper : Call → Prop
  | push _ status _ => status.isFinal = false
  | commit .. => True
  | fail _ status _ => status.isFinal = true ∧ status ≠ .committed

end Call

/-- The report after a call. -/
def call (r : Report) : Call → Report
  | .push now status message => r.push now status message
  | .commit now statistics => r.commit now statistics
  | .fail now status message => r.fail now status message

/-- The report after calls, one after the other. -/
def calls (r : Report) (xs : List Call) : Report := xs.foldl call r

/-! ### One call -/

theorem push_eq_guarded (r : Report) (now : Instant) (status : Status) (message : Option String) :
    r.push now status message = { r with
      history := if r.isFinished then r.history else r.history ++ [⟨now, status, message⟩] } := by
  unfold push
  cases r.isFinished with
  | true => rfl
  | false => rfl

/-- **All that a call changes.** The history is kept if it has come to its end; the counters and the
message are written in any case. -/
theorem call_eq (r : Report) (x : Call) :
    r.call x = { r with
      history := if r.isFinished then r.history else r.history ++ [x.entry]
      statistics := x.statistics?.getD r.statistics
      errorMessage := x.errorMessage?.or r.errorMessage } := by
  cases x with
  | push now status message => exact push_eq_guarded r now status message
  | commit now statistics => exact push_eq_guarded { r with statistics } now _ _
  | fail now status message =>
    exact push_eq_guarded { r with statistics := ⟨0, 0⟩, errorMessage := some message } now _ _

theorem isFinished_call (r : Report) (x : Call) :
    (r.call x).isFinished = (r.isFinished || x.closes) := by
  rw [call_eq]
  cases hr : r.isFinished with
  | true => exact hr
  | false => simp [isFinished, status, Call.closes]

/-! ### Calls one after the other -/

namespace Call

/-- The calls up to the first that brings the history to its end. -/
def upToClosing : List Call → List Call
  | [] => []
  | x :: xs => if x.closes then [x] else x :: upToClosing xs

theorem getLast?_upToClosing {xs : List Call} {x : Call} (h : xs.find? closes = some x) :
    (upToClosing xs).getLast? = some x := by
  induction xs with
  | nil => cases h
  | cons y xs ih =>
    rw [List.find?_cons] at h
    cases hy : y.closes with
    | true =>
      rw [hy] at h
      rw [upToClosing, hy]
      exact h
    | false =>
      rw [hy] at h
      rw [upToClosing, hy, if_neg Bool.false_ne_true, List.getLast?_cons, ih h]
      rfl

/-- The last of what calls write by `f`. -/
def last? {α : Type} (f : Call → Option α) (xs : List Call) : Option α := (xs.filterMap f).getLast?

theorem last?_cons {α : Type} (f : Call → Option α) (x : Call) (xs : List Call) :
    last? f (x :: xs) = (last? f xs).or (f x) := by
  unfold last?
  cases hx : f x with
  | none => rw [List.filterMap_cons_none hx, Option.or_none]
  | some a =>
    rw [List.filterMap_cons_some hx, List.getLast?_cons]
    cases (xs.filterMap f).getLast? <;> rfl

theorem exists_last? {α : Type} {f : Call → Option α} {xs : List Call} {x : Call} (hx : x ∈ xs)
    {a : α} (ha : f x = some a) : ∃ b, last? f xs = some b := by
  cases hlast : last? f xs with
  | none =>
    have hnone := List.getLast?_eq_none_iff.mp hlast
    exact absurd (List.mem_filterMap.mpr ⟨x, hx, ha⟩) (by simp [hnone])
  | some b => exact ⟨b, rfl⟩

end Call

/-- **What a report is after calls**: its history is continued up to the first call that brings it
to its end, and the counters and the message are the last that were written. -/
theorem calls_eq (r : Report) (xs : List Call) :
    r.calls xs = { r with
      history := if r.isFinished then r.history
        else r.history ++ (Call.upToClosing xs).map Call.entry
      statistics := (Call.last? Call.statistics? xs).getD r.statistics
      errorMessage := (Call.last? Call.errorMessage? xs).or r.errorMessage } := by
  induction xs generalizing r with
  | nil => cases hr : r.isFinished <;> simp [calls, Call.last?, Call.upToClosing]
  | cons x xs ih =>
    have hcalls : r.calls (x :: xs) = (r.call x).calls xs := rfl
    rw [hcalls, ih, isFinished_call, call_eq, Call.last?_cons, Call.last?_cons, Option.or_assoc]
    congr 1
    · cases hr : r.isFinished with
      | true => rfl
      | false =>
        cases hx : x.closes with
        | true => simp [Call.upToClosing, hx]
        | false => simp [Call.upToClosing, hx]
    · cases Call.last? Call.statistics? xs <;> rfl

theorem isFinished_calls (r : Report) (xs : List Call) :
    (r.calls xs).isFinished = (r.isFinished || xs.any Call.closes) := by
  induction xs generalizing r with
  | nil => exact (Bool.or_false _).symm
  | cons x xs ih =>
    have hcalls : r.calls (x :: xs) = (r.call x).calls xs := rfl
    rw [hcalls, ih, isFinished_call, List.any_cons, Bool.or_assoc]

theorem getLast?_history_calls {r : Report} (hr : r.isFinished = false) {xs : List Call} {x : Call}
    (h : xs.find? Call.closes = some x) : (r.calls xs).history.getLast? = some x.entry := by
  rw [calls_eq]
  simp [hr, List.getLast?_append, List.getLast?_map, Call.getLast?_upToClosing h]

theorem status_of_getLast? {r : Report} {e : StatusEntry} (h : r.history.getLast? = some e) :
    r.status = e.status := by
  rw [status, h]

/-! ### Coherent reports -/

/-- **Whether a report is coherent** after calls: if the request was carried out, there is no
message, and the counters are those of the call that brought the history to its end; if it failed,
the counters are zero, and the message is that of the last entry. -/
structure Coherent (r : Report) (xs : List Call) : Prop where
  committed : r.status = .committed →
    r.errorMessage = none ∧ ∃ now, xs.find? Call.closes = some (.commit now r.statistics)
  failed : r.status.isFinal = true → r.status ≠ .committed →
    r.statistics = ⟨0, 0⟩ ∧ ∃ e, r.history.getLast? = some e ∧ r.errorMessage = e.message

theorem coherent_of_not_finished {r : Report} (h : r.isFinished = false) (xs : List Call) :
    r.Coherent xs := by
  have hfinal : r.status.isFinal = false := h
  constructor
  · intro hcommitted
    rw [hcommitted] at hfinal
    cases hfinal
  · intro hfinal'
    rw [hfinal] at hfinal'
    cases hfinal'

/-- A finished report is coherent if it has the counters and the message of the call that brought
its history to its end. -/
theorem coherent_iff_of_closing {r : Report} {xs : List Call} {x : Call} (hx : x.Proper)
    (hfind : xs.find? Call.closes = some x) (hlast : r.history.getLast? = some x.entry) :
    r.Coherent xs ↔ x.statistics? = some r.statistics ∧ x.errorMessage? = r.errorMessage := by
  have hstatus := status_of_getLast? hlast
  have hcloses : x.closes = true := List.find?_some hfind
  cases x with
  | push now status message =>
    -- no status that is pushed is final
    have hpushed : status.isFinal = false := hx
    exact absurd hcloses (by simp [Call.closes, Call.entry, hpushed])
  | commit now s =>
    constructor
    · intro h
      obtain ⟨hnone, now', hcommit⟩ := h.committed hstatus
      obtain ⟨-, hs⟩ := Call.commit.inj (Option.some.inj (hfind.symm.trans hcommit))
      exact ⟨congrArg some hs, hnone.symm⟩
    · rintro ⟨hs, hnone⟩
      obtain rfl : s = r.statistics := Option.some.inj hs
      exact ⟨fun _ => ⟨hnone.symm, now, hfind⟩, fun _ hne => absurd hstatus hne⟩
  | fail now status message =>
    obtain ⟨hfinal, hfailure⟩ : status.isFinal = true ∧ status ≠ .committed := hx
    have hne : r.status ≠ .committed := hstatus ▸ hfailure
    constructor
    · intro h
      obtain ⟨hzero, e, he, hm⟩ := h.failed (hstatus ▸ hfinal) hne
      obtain rfl : e = Call.entry (.fail now status message) :=
        Option.some.inj (he.symm.trans hlast)
      exact ⟨congrArg some hzero.symm, hm.symm⟩
    · rintro ⟨hzero, hm⟩
      exact ⟨fun hcommitted => absurd hcommitted hne,
        fun _ _ => ⟨(Option.some.inj hzero).symm, _, hlast, hm.symm⟩⟩

theorem Call.exists_statistics? {x : Call} (hx : x.Proper) (hcloses : x.closes = true) :
    ∃ s, x.statistics? = some s := by
  cases x with
  | push now status message =>
    have hpushed : status.isFinal = false := hx
    exact absurd hcloses (by simp [closes, entry, hpushed])
  | commit now s => exact ⟨s, rfl⟩
  | fail now status message => exact ⟨⟨0, 0⟩, rfl⟩

/-- **The history tells of the first call that carries out or fails, counters and message of the
last.** After any proper calls on the report of a request that waits, the history has the entries of
the calls up to the first that brings it to its end, and the counters and the message are the last
that a call has written, before or after the end. The report is coherent if and only if the last
counters that were written are those of the call that brought the history to its end, and the last
message that was written is that of this call too; if it carries out, then none was written. A
further call on a finished report writes its counters and its message, and leaves all else. -/
theorem told_by_last_calls (q : Request) (time : Instant) {xs : List Call}
    (hxs : ∀ x ∈ xs, x.Proper) :
    (queued q time).calls xs = ⟨q.id, q.podId, q.sliceId,
      ⟨time, .queued, none⟩ :: (Call.upToClosing xs).map Call.entry,
      (Call.last? Call.statistics? xs).getD ⟨0, 0⟩, Call.last? Call.errorMessage? xs, none⟩ ∧
    (((queued q time).calls xs).Coherent xs ↔ ∀ x, xs.find? Call.closes = some x →
      Call.last? Call.statistics? xs = x.statistics? ∧
        Call.last? Call.errorMessage? xs = x.errorMessage?) ∧
    (((queued q time).calls xs).isFinished = true → ∀ y, ((queued q time).calls xs).call y =
      { (queued q time).calls xs with
        statistics := y.statistics?.getD ((queued q time).calls xs).statistics
        errorMessage := y.errorMessage?.or ((queued q time).calls xs).errorMessage }) := by
  have hqueued : (queued q time).isFinished = false := rfl
  have hcalls : (queued q time).calls xs = ⟨q.id, q.podId, q.sliceId,
      ⟨time, .queued, none⟩ :: (Call.upToClosing xs).map Call.entry,
      (Call.last? Call.statistics? xs).getD ⟨0, 0⟩, Call.last? Call.errorMessage? xs, none⟩ := by
    rw [calls_eq, hqueued]
    simp [queued]
  refine ⟨hcalls, ?_, fun hfinished y => ?_⟩
  · cases hfind : xs.find? Call.closes with
    | none =>
      refine iff_of_true (coherent_of_not_finished ?_ xs) fun x hx => by cases hx
      rw [isFinished_calls, hqueued, List.any_eq_false.mpr (List.find?_eq_none.mp hfind)]
      rfl
    | some x =>
      have hmem := List.mem_of_find?_eq_some hfind
      have hcloses : x.closes = true := List.find?_some hfind
      -- the call that brings the history to its end has written counters, so some are the last
      obtain ⟨s, hs⟩ := Call.exists_statistics? (hxs x hmem) hcloses
      obtain ⟨s', hs'⟩ := Call.exists_last? hmem hs
      rw [coherent_iff_of_closing (hxs x hmem) hfind (getLast?_history_calls hqueued hfind), hcalls,
        hs', Option.getD_some]
      constructor
      · rintro ⟨hstatistics, hmessage⟩ y ⟨⟩
        exact ⟨hstatistics.symm, hmessage.symm⟩
      · intro h
        obtain ⟨hstatistics, hmessage⟩ := h x rfl
        exact ⟨hstatistics.symm, hmessage.symm⟩
  · rw [call_eq, hfinished]
    rfl

/-- A request fails, and calls come after that. The last of them is a failure with the same message,
so that the report is coherent again, which it was not before it; one more call has an effect. -/
theorem told_by_last_calls_of_same_failure :
    let q := Request.new "01HZY3V4E0000000000000000A" "pod-1"
    let xs : List Call := [.push ⟨1, 0⟩ .preprocessed none, .fail ⟨2, 0⟩ .noMatches "none",
      .commit ⟨3, 0⟩ ⟨3, 1⟩, .fail ⟨4, 0⟩ .internalError "none"]
    let r := (queued q ⟨0, 0⟩).calls xs
    (∀ x ∈ xs, x.Proper) ∧ r.Coherent xs ∧
      ¬ ((queued q ⟨0, 0⟩).calls (xs.take 3)).Coherent (xs.take 3) ∧ r.isFinished = true ∧
      r.call (.commit ⟨5, 0⟩ ⟨9, 0⟩) = { r with statistics := ⟨9, 0⟩ } := by
  intro q xs r
  have hproper : ∀ x ∈ xs, x.Proper := by
    intro x hx
    simp only [xs, List.mem_cons, List.not_mem_nil, or_false] at hx
    rcases hx with rfl | rfl | rfl | rfl
    · exact rfl
    · exact ⟨rfl, by decide⟩
    · exact trivial
    · exact ⟨rfl, by decide⟩
  have hproper' : ∀ x ∈ xs.take 3, x.Proper := fun x hx => hproper x (List.mem_of_mem_take hx)
  refine ⟨hproper, (told_by_last_calls q ⟨0, 0⟩ hproper).2.1.mpr ?_, fun h => ?_, rfl,
    (told_by_last_calls q ⟨0, 0⟩ hproper).2.2 rfl _⟩
  · rintro x ⟨⟩
    exact ⟨rfl, rfl⟩
  · have hlast := (told_by_last_calls q ⟨0, 0⟩ hproper').2.1.mp h _ rfl
    revert hlast
    decide

/-- A failure that comes after the request was carried out takes its counters away and leaves a
message, and the report is still that of a request that was carried out; what is carried out after a
failure is counted in a report of a failure. -/
theorem late_calls_written :
    let q := Request.new "01HZY3V4E0000000000000000A" "pod-1"
    let committed : Call := .commit ⟨1, 0⟩ ⟨3, 1⟩
    let failed : Call := .fail ⟨2, 0⟩ .validationError "late"
    let r := (queued q ⟨0, 0⟩).calls [committed, failed]
    let r' := (queued q ⟨0, 0⟩).calls [failed, committed]
    r.status = .committed ∧ r.statistics = ⟨0, 0⟩ ∧ r.errorMessage = some "late" ∧
      ¬ r.Coherent [committed, failed] ∧
    r'.status = .validationError ∧ r'.statistics = ⟨3, 1⟩ ∧ ¬ r'.Coherent [failed, committed] := by
  intro q committed failed r r'
  refine ⟨rfl, rfl, rfl, fun h => ?_, rfl, rfl, fun h => ?_⟩
  · obtain ⟨hnone, -⟩ := h.committed rfl
    cases hnone
  · obtain ⟨hzero, -⟩ := h.failed rfl (by decide)
    cases hzero

end GraphLedger.Report
