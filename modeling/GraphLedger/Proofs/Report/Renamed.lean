import GraphLedger.Pipeline.Basic
import GraphLedger.Proofs.Shape.Renamed

/-! # Failures and reports in two runs

The names of nodes come into a report by the report of a check only. So the reports of one request
in two runs are the same but for times, if the failures are, and the violations that a check found
have other names at most.

* `Failure.Alike`, `OutcomesAlike`: the same failure, and the same outcome, in another run.
* `Report.Alike`: the same report in another run; `Report.Alike.concluded`: it is what alike
  outcomes come to. -/

namespace GraphLedger

/-! ### Failures -/

/-- The same report of a check in a run with other names. -/
inductive ChecksAlike (π : String → String) : Json → Json → Prop
  | same (report : Json) : ChecksAlike π report report
  | violations {vs vs' : List Violation} (h : List.Forall₂ (Violation.Alike π) vs vs') :
      ChecksAlike π (validationReport vs) (validationReport vs')

/-- The same failure in a run with other names. -/
inductive Failure.Alike (π : String → String) : Failure → Failure → Prop
  | same (e : Failure) : Alike π e e
  | conformance (message : String) {report report' : Json} (h : ChecksAlike π report report') :
      Alike π (.conformance message report) (.conformance message report')

/-- The same outcome in a run with other names. -/
inductive OutcomesAlike (π : String → String) : Except Failure Unit → Except Failure Unit → Prop
  | ok : OutcomesAlike π (.ok ()) (.ok ())
  | error {e e' : Failure} (h : e.Alike π e') : OutcomesAlike π (.error e) (.error e')

section Outcomes
variable {π : String → String}

theorem OutcomesAlike.refl (outcome : Except Failure Unit) : OutcomesAlike π outcome outcome := by
  cases outcome with
  | error e => exact .error (.same e)
  | ok _ => exact .ok

theorem OutcomesAlike.bind {x x' : Except Failure Unit} {f f' : Unit → Except Failure Unit}
    (h : OutcomesAlike π x x') (hf : OutcomesAlike π (f ()) (f' ())) :
    OutcomesAlike π (x >>= f) (x' >>= f') := by
  cases h with
  | ok => exact hf
  | error h => exact .error h

theorem Failure.Alike.told {e e' : Failure} (h : e.Alike π e') :
    e'.status = e.status ∧ e'.message = e.message ∧
      Option.Rel (ChecksAlike π) e.validationReport? e'.validationReport? := by
  cases h with
  | same e =>
    refine ⟨rfl, rfl, ?_⟩
    cases e.validationReport? with
    | none => exact .none
    | some report => exact .some (.same report)
  | conformance message h => exact ⟨rfl, rfl, .some h⟩

end Outcomes

/-! ### Reports -/

/-- The status and the message of a status entry, without the time. -/
def StatusEntry.untimed (e : StatusEntry) : Status × Option String := (e.status, e.message)

/-- The same report in a run at other times and with other names: names stand in the report of a
check only. -/
structure Report.Alike (π : String → String) (r r' : Report) : Prop where
  id : r'.id = r.id
  podId : r'.podId = r.podId
  sliceId : r'.sliceId = r.sliceId
  history : r'.history.map StatusEntry.untimed = r.history.map StatusEntry.untimed
  statistics : r'.statistics = r.statistics
  errorMessage : r'.errorMessage = r.errorMessage
  validationReport : Option.Rel (ChecksAlike π) r.validationReport r'.validationReport

namespace Report.Alike
variable {π : String → String} {r r' : Report} (h : r.Alike π r')

theorem refl (r : Report) : r.Alike π r := by
  refine ⟨rfl, rfl, rfl, rfl, rfl, rfl, ?_⟩
  cases r.validationReport with
  | none => exact .none
  | some report => exact .some (.same report)

theorem queued (r : Request) (time time' : Instant) :
    (Report.queued r time).Alike π (.queued r time') :=
  ⟨rfl, rfl, rfl, rfl, rfl, rfl, .none⟩

include h

theorem status_eq : r'.status = r.status := by
  have hlast : ∀ q : Report, q.status =
      ((q.history.map StatusEntry.untimed).getLast?.map Prod.fst).getD .queued := fun q => by
    rw [List.getLast?_map, Report.status]
    cases q.history.getLast? <;> rfl
  rw [hlast, hlast, h.history]

theorem push (now now' : Instant) (status : Status) (message : Option String) :
    (r.push now status message).Alike π (r'.push now' status message) := by
  unfold Report.push isFinished
  rw [h.status_eq]
  split
  · exact h
  · refine ⟨h.id, h.podId, h.sliceId, ?_, h.statistics, h.errorMessage, h.validationReport⟩
    rw [List.map_append, List.map_append, h.history]
    rfl

theorem commit (now now' : Instant) (s : Statistics) :
    (r.commit now s).Alike π (r'.commit now' s) := by
  have hcounted : Report.Alike π { r with statistics := s } { r' with statistics := s } :=
    ⟨h.id, h.podId, h.sliceId, h.history, rfl, h.errorMessage, h.validationReport⟩
  exact hcounted.push now now' _ _

theorem fail (now now' : Instant) {e e' : Failure} (he : e.Alike π e') :
    ({ r with validationReport := e.validationReport? }.fail now e.status e.message).Alike π
      ({ r' with validationReport := e'.validationReport? }.fail now' e'.status e'.message) := by
  obtain ⟨hstatus, hmessage, hcheck⟩ := he.told
  rw [hstatus, hmessage]
  have hfailed : Report.Alike π
      { r with
        validationReport := e.validationReport?
        statistics := ⟨0, 0⟩
        errorMessage := some e.message }
      { r' with
        validationReport := e'.validationReport?
        statistics := ⟨0, 0⟩
        errorMessage := some e.message } :=
    ⟨h.id, h.podId, h.sliceId, h.history, rfl, rfl, hcheck⟩
  exact hfailed.push now now' _ _

end Report.Alike

/-- **Alike outcomes** come to alike reports, if what was stored was counted alike. -/
theorem Report.Alike.concluded {π : String → String} {w w' : Run} {now now' : Instant}
    {outcome outcome' : Except Failure Unit} (h : w.report.Alike π w'.report)
    (houtcome : OutcomesAlike π outcome outcome')
    (hcounts : outcome = .ok () →
      w'.workspace.buffer.statistics = w.workspace.buffer.statistics) :
    (Pipeline.concluded now outcome w).Alike π (Pipeline.concluded now' outcome' w') := by
  cases houtcome with
  | ok =>
    unfold Pipeline.concluded
    rw [hcounts rfl]
    exact h.commit now now' _
  | error he => exact h.fail now now' he

end GraphLedger
