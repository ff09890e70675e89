import GraphLedger.Proofs.Audit.Written
import GraphLedger.Proofs.Pipeline.Run
import Mathlib.Tactic.Ring

/-! # The report of a run

Whatever becomes of a request, there is one report on it. Its history begins with the time in the
identifier of the request and ends with what the first failing step says, or with the commitment of
the request if no step fails. Between them it may be noted that the request is prepared: before the
first storing stage, or at the end if there is none, but in any case once all other stages passed.

* `Run.stages_cases`: stages all pass, or one fails after others that passed.
* `Pipeline.fst_run`: the outcome of a request is that of its first failing step.
* `Pipeline.report_run`: what is in the report when the last stage ends.
* `one_report_per_run`: what is recorded, published and answered, and the whole of its history. -/

namespace GraphLedger

/-! ### The time in an identifier -/

namespace Ulid

/-- The number that digits write. -/
def number (ds : List Nat) : Nat := ds.foldl (fun n d => n * 32 + d) 0

theorem foldl_digits (ds : List Nat) (n : Nat) :
    ds.foldl (fun n d => n * 32 + d) n = n * 32 ^ ds.length + number ds := by
  unfold number
  induction ds generalizing n with
  | nil => simp
  | cons d ds ih =>
    rw [List.foldl_cons, List.foldl_cons, ih, ih (0 * 32 + d), List.length_cons, Nat.pow_succ]
    ring

theorem number_append (ds es : List Nat) :
    number (ds ++ es) = number ds * 32 ^ es.length + number es := by
  rw [number, List.foldl_append, foldl_digits]
  rfl

theorem number_lt {ds : List Nat} (h : ∀ d ∈ ds, d < 32) : number ds < 32 ^ ds.length := by
  induction ds with
  | nil => simp [number]
  | cons d ds ih =>
    obtain ⟨hd, hds⟩ := List.forall_mem_cons.mp h
    have hrest := ih hds
    have hcons : number (d :: ds) = d * 32 ^ ds.length + number ds := by
      simpa [number] using number_append [d] ds
    have hle : (d + 1) * 32 ^ ds.length ≤ 32 * 32 ^ ds.length := Nat.mul_le_mul_right _ hd
    rw [hcons, List.length_cons, Nat.pow_succ]
    rw [Nat.add_mul, Nat.one_mul] at hle
    omega

theorem lt_of_value? {c : Char} {d : Nat} (h : value? c = some d) : d < 32 := by
  have hlt := List.findIdx?_eq_some_iff_findIdx_eq.mp h
  exact hlt.1

theorem digits_of_mapM {cs : List Char} : ∀ {ds : List Nat}, cs.mapM value? = some ds →
    ds.length = cs.length ∧ ∀ d ∈ ds, d < 32 := by
  induction cs with
  | nil =>
    intro ds h
    cases h
    simp
  | cons c cs ih =>
    intro ds h
    rw [List.mapM_cons] at h
    obtain ⟨d, hd, h⟩ := Option.bind_eq_some_iff.mp h
    obtain ⟨ds', hds, h⟩ := Option.bind_eq_some_iff.mp h
    cases h
    obtain ⟨hlen, hlt⟩ := ih hds
    exact ⟨congrArg (· + 1) hlen, List.forall_mem_cons.mpr ⟨lt_of_value? hd, hlt⟩⟩

/-- **The time comes first.** Of the 26 digits of an identifier the first ten are its time, of which
48 bits count; the others are 80 bits behind it. -/
theorem exists_digits {s : String} {n : Nat} (h : decode? s = some n) :
    ∃ ds, s.toList.mapM value? = some ds ∧ ds.length = size ∧
      milliseconds n = number (ds.take 10) % 2 ^ 48 := by
  unfold decode? at h
  dsimp only at h
  split_ifs at h with hsize
  obtain ⟨ds, hds, h⟩ := Option.bind_eq_some_iff.mp h
  cases h
  obtain ⟨hlen, hlt⟩ := digits_of_mapM hds
  have hlength : ds.length = size := by
    rw [hlen]
    simpa using hsize
  have hrest : number (ds.drop 10) < 2 ^ 80 := by
    have hdrop : ∀ d ∈ ds.drop 10, d < 32 := fun d hd => hlt d (List.mem_of_mem_drop hd)
    have hbound := number_lt hdrop
    rw [List.length_drop, hlength] at hbound
    exact hbound
  have hnumber : number ds = number (ds.take 10) * 2 ^ 80 + number (ds.drop 10) := by
    conv_lhs => rw [← List.take_append_drop 10 ds, number_append, List.length_drop, hlength]
    rfl
  refine ⟨ds, hds, hlength, ?_⟩
  -- the lower 80 of the 128 bits are those of the other digits
  have hshift : number ds / 2 ^ 80 = number (ds.take 10) := by omega
  calc milliseconds (number ds % 2 ^ 128)
      = number ds % (2 ^ 80 * 2 ^ 48) / 2 ^ 80 := rfl
    _ = number ds / 2 ^ 80 % 2 ^ 48 := Nat.mod_mul_right_div_self _ _ _
    _ = number (ds.take 10) % 2 ^ 48 := by rw [hshift]

end Ulid

namespace Run
variable (now : Instant)

/-! ### The first failing stage -/

/-- **How stages go.** All of them pass, or one fails after others that passed. -/
theorem stages_cases (ss : List Stage) (r : Run) :
    ((stages now ss r).1 = .ok () ∧ trace now ss r = ss.map fun s => (s, .ok ())) ∨
      ∃ e passed s rest, ss = passed ++ s :: rest ∧ (stages now ss r).1 = .error e ∧
        trace now ss r = (passed.map fun s => (s, .ok ())) ++ [(s, .error e)] := by
  induction ss generalizing r with
  | nil => exact Or.inl ⟨rfl, rfl⟩
  | cons s ss ih =>
    rw [stages, trace]
    rcases r.stage now s with ⟨e | u, r'⟩
    · exact Or.inr ⟨e, [], s, ss, rfl, rfl, rfl⟩
    · rcases ih r' with ⟨hok, htrace⟩ | ⟨e, passed, t, rest, hss, herror, htrace⟩
      · exact Or.inl ⟨hok, by rw [List.map_cons, ← htrace]⟩
      · refine Or.inr ⟨e, s :: passed, t, rest, by rw [hss]; rfl, herror, ?_⟩
        exact congrArg ((s, Except.ok ()) :: ·) htrace

theorem stages_eq_ok_iff {ss : List Stage} (hn : ss.Nodup) (r : Run) :
    (stages now ss r).1 = .ok () ↔ ∀ s ∈ ss, (s, .ok ()) ∈ trace now ss r := by
  rcases stages_cases now ss r with ⟨hok, htrace⟩ | ⟨e, passed, s, rest, hss, herror, htrace⟩
  · rw [htrace]
    exact iff_of_true hok fun s hs => List.mem_map_of_mem hs
  · rw [herror, htrace]
    refine iff_of_false (by rintro ⟨⟩) fun hall => ?_
    -- the stage that failed is none of those that passed before it
    have hs : s ∉ passed := by
      rw [hss] at hn
      exact fun h => (List.nodup_append.mp hn).2.2 s h s (by simp) rfl
    have hmem := hall s (by rw [hss]; simp)
    simp only [List.mem_append, List.mem_map, Prod.mk.injEq, and_true, exists_eq_right,
      List.mem_singleton, reduceCtorEq, and_false, or_false] at hmem
    exact hs hmem

/-! ### What storing stages report -/

theorem report_notePreprocessed_of_not_pending {r : Run} (h : r.pending = false) :
    (r.notePreprocessed now).report = r.report := by
  simp [notePreprocessed, h]

theorem report_store (id : String) (r : Run) :
    (r.store now id).2.report = (r.notePreprocessed now).report ∧
      (r.store now id).2.pending = false := by
  have hpending : (r.notePreprocessed now).pending = false := by
    unfold notePreprocessed
    split
    · rfl
    · rename_i h; simpa using h
  unfold store
  dsimp only
  split <;> exact ⟨rfl, hpending⟩

/-- **Storing stages** note that the request is prepared, whether there is one of them or none, and
whether one fails or not. -/
theorem report_chain_of_storage {ss : List Stage} (h : ∀ s ∈ ss, s.isStorage = true) (r : Run) :
    (chain now ss r).2.report = (r.notePreprocessed now).report := by
  induction ss generalizing r with
  | nil => rfl
  | cons s ss ih =>
    obtain ⟨hs, hss⟩ := List.forall_mem_cons.mp h
    cases s with
    | process name step => cases hs
    | store id =>
      obtain ⟨hreport, hpending⟩ := r.report_store now id
      rcases hrun : r.stage now (.store id) with ⟨e | u, r'⟩
      all_goals
        rw [show r.store now id = _ from hrun] at hreport hpending
      · have hchain : chain now (.store id :: ss) r = (.error e, r') := by
          rw [chain, stages, hrun]
        rw [hchain, hreport]
      · have hchain : chain now (.store id :: ss) r = chain now ss r' := by
          rw [chain, stages, hrun, chain]
        rw [hchain, ih hss, report_notePreprocessed_of_not_pending now hpending, hreport]

end Run

/-! ### Stages are told apart -/

/-- What tells a stage from others: whether it stores, and its name. -/
def Stage.label (s : Stage) : Bool × String := (s.isStorage, s.name)

/-- What tells a stage of a configuration from others: whether it stores, and where, or its name. -/
def StageId.label : StageId → Bool × String
  | .storage id => (true, id)
  | id => (false, id.name)

theorem StageId.label_injective : Function.Injective StageId.label := by
  intro id id' h
  cases id <;> cases id' <;> simp_all [label, name]

namespace Setup

theorem label_resolveStage {s : Setup} {id : StageId} {stage : Stage}
    (h : s.resolveStage id = .ok stage) : stage.label = id.label := by
  rcases resolveStage_cases Step.kept_onlyAdds h with ⟨b, rfl, rfl⟩ | ⟨hid, step, rfl, -⟩
  · rfl
  · cases id with
    | storage b => cases hid
    | _ => rfl

theorem Builds.nodup_stages {s : Setup} {p : Pipeline} (h : s.Builds p) : p.stages.Nodup := by
  have hmap : s.config.resolvedStages.map StageId.label = p.stages.map Stage.label := by
    rw [← List.forall₂_eq_eq_eq, List.forall₂_map_left_iff, List.forall₂_map_right_iff]
    exact h.stages.imp fun _ _ hr => (label_resolveStage hr).symm
  have hlabels : (s.config.resolvedStages.map StageId.label).Nodup :=
    h.runnable.distinct.map StageId.label_injective
  rw [hmap] at hlabels
  exact hlabels.of_map

end Setup

/-- The failure of a step that failed. -/
def Failure.ofOutcome? : Except Failure Unit → Option Failure
  | .error e => some e
  | .ok () => none

theorem Pipeline.findSome?_ofOutcome? (ss : List Stage) :
    (ss.map fun s => (s, (.ok () : Except Failure Unit))).findSome?
      (fun q => Failure.ofOutcome? q.2) = none := by
  simp [Failure.ofOutcome?]

namespace Pipeline
variable (p : Pipeline) (now : Instant) (r : Request) (l : Ledger)

/-- Why a request fails: why it is refused, or the failure of the first stage that fails. -/
def failure? : Option Failure :=
  match r.fault? with
  | some e => some (.ofRequest e)
  | none => (p.trace now r l).findSome? fun q => Failure.ofOutcome? q.2

/-- Whether a stage is started on a request and passes. -/
def Passes (stage : Stage) : Prop := (stage, .ok ()) ∈ p.trace now r l

/-- **The first failure decides.** The outcome of a request is that of its first failing step. -/
theorem fst_run :
    (p.run now r l).1 = match p.failure? now r l with
      | some e => .error e
      | none => .ok () := by
  unfold run failure? trace
  cases hf : r.fault? with
  | some e => rfl
  | none =>
    dsimp only
    rw [Run.fst_chain]
    rcases Run.stages_cases now p.stages (p.start now r l) with
      ⟨hok, htrace⟩ | ⟨e, passed, s, rest, -, herror, htrace⟩
    · rw [hok, htrace, findSome?_ofOutcome?]
    · rw [herror, htrace, List.findSome?_append, findSome?_ofOutcome?]
      rfl

theorem fst_process_of_memory {log : ChangeLog} (h : l.reports = .memory log) :
    (p.process now r l).1 = .ok (p.report now r l) := by
  rw [process_eq, h]
  rfl

theorem fst_process_of_failing {e : Failure} (h : l.reports = .failing e) :
    (p.process now r l).1 = .error e.asAudit := by
  rw [process_eq, h]
  rfl

end Pipeline

namespace Setup.Builds
variable {s : Setup} {p : Pipeline} (h : s.Builds p) (now : Instant) (r : Request) (l : Ledger)
include h

theorem failure?_eq_none_iff :
    p.failure? now r l = none ↔ r.fault? = none ∧ ∀ stage ∈ p.stages, p.Passes now r l stage := by
  have hrun := p.fst_run now r l
  have hiff : p.failure? now r l = none ↔ (p.run now r l).1 = .ok () := by
    rw [hrun]
    cases p.failure? now r l with
    | some e => exact iff_of_false (by rintro ⟨⟩) (by rintro ⟨⟩)
    | none => exact iff_of_true rfl rfl
  rw [hiff]
  unfold Pipeline.run Pipeline.Passes Pipeline.trace
  cases hf : r.fault? with
  | some e => exact iff_of_false (by rintro ⟨⟩) (by rintro ⟨⟨⟩, -⟩)
  | none =>
    dsimp only
    rw [Run.fst_chain, Run.stages_eq_ok_iff now h.nodup_stages]
    exact (and_iff_right rfl).symm

/-- A request comes to its first storing stage if and only if it is not refused and all stages that
do not store pass. -/
theorem stages_preparing_eq_ok_iff (hf : r.fault? = none) :
    (Run.stages now p.preparing (p.start now r l)).1 = .ok () ↔
      ∀ stage ∈ p.stages, stage.isStorage = false → p.Passes now r l stage := by
  have hn : p.preparing.Nodup := h.nodup_stages.sublist (List.takeWhile_sublist _)
  rw [Run.stages_eq_ok_iff now hn]
  -- stages that do not store are preparing stages, and so it is with those that are started
  have hstages : ∀ stage, stage ∈ p.preparing ↔ stage ∈ p.stages ∧ stage.isStorage = false := by
    intro stage
    rw [← p.preparing_append_storing, List.mem_append]
    constructor
    · exact fun hs => ⟨Or.inl hs, Pipeline.isStorage_of_mem_preparing hs⟩
    · rintro ⟨hs | hs, hstorage⟩
      · exact hs
      · rw [h.isStorage_of_mem_storing hs] at hstorage
        cases hstorage
  have htrace : ∀ stage ∈ p.preparing, p.Passes now r l stage ↔
      (stage, .ok ()) ∈ Run.trace now p.preparing (p.start now r l) := by
    intro stage hs
    rw [Pipeline.Passes, p.trace_eq now r l hf, List.mem_append]
    refine ⟨fun hmem => hmem.resolve_right fun hlater => ?_, Or.inl⟩
    have hpreparing := Pipeline.isStorage_of_mem_preparing hs
    split at hlater
    · rw [h.isStorage_of_mem_storing (Run.mem_of_mem_trace now hlater)] at hpreparing
      cases hpreparing
    · cases hlater
  constructor
  · intro hall stage hs hstorage
    have hmem := (hstages stage).mpr ⟨hs, hstorage⟩
    exact (htrace stage hmem).mpr (hall stage hmem)
  · intro hall stage hmem
    obtain ⟨hs, hstorage⟩ := (hstages stage).mp hmem
    exact (htrace stage hmem).mp (hall stage hs hstorage)

/-- **The report before its conclusion** says that the request was queued, and that it is prepared
if that is wanted and so. -/
theorem report_run :
    let prepared := r.fault? = none ∧
      ∀ stage ∈ p.stages, stage.isStorage = false → p.Passes now r l stage
    let queued := Report.queued r (Pipeline.queuedAt now r)
    s.config.recordPreprocessed = true ∧ prepared ∧
        (p.run now r l).2.report = queued.push now .preprocessed none ∨
      ¬ (s.config.recordPreprocessed = true ∧ prepared) ∧ (p.run now r l).2.report = queued := by
  intro prepared queued
  rw [← h.recordPreprocessed]
  rcases p.run_cases now r l with ⟨e, hf, hrun⟩ | ⟨e, hf, hs, hrun⟩ | ⟨hf, hs, hrun⟩
  · refine Or.inr ⟨fun hp => ?_, by rw [hrun]; rfl⟩
    rw [hp.2.1] at hf
    cases hf
  · refine Or.inr ⟨fun hp => ?_, by rw [hrun]; exact (h.prepared_start now r l).report⟩
    have hok := (h.stages_preparing_eq_ok_iff now r l hf).mpr hp.2.2
    rw [hs] at hok
    cases hok
  · have hprepared := h.prepared_start now r l
    have hok : prepared :=
      ⟨hf, (h.stages_preparing_eq_ok_iff now r l hf).mp (by rw [hs])⟩
    have hreport : (p.run now r l).2.report =
        ((p.prepared now r l).notePreprocessed now).report := by
      rw [hrun]
      exact Run.report_chain_of_storage now (fun _ => h.isStorage_of_mem_storing) _
    rw [hreport, Run.notePreprocessed, hprepared.pending, hprepared.report]
    cases hpending : p.recordPreprocessed with
    | true => exact Or.inl ⟨rfl, hok, by simp [Pipeline.start, hpending, queued]⟩
    | false => exact Or.inr ⟨by simp, by simp [Pipeline.start, hpending, hprepared.report, queued]⟩

end Setup.Builds

/-! ### The whole report -/

theorem Report.push_eq {r : Report} (h : r.isFinished = false) (now : Instant) (status : Status)
    (message : Option String) :
    r.push now status message = { r with history := r.history ++ [⟨now, status, message⟩] } := by
  rw [push, h]
  rfl

theorem Pipeline.concluded_eq (now : Instant) {w : Run} (h : w.report.isFinished = false) :
    concluded now (.ok ()) w =
        { w.report with
          history := w.report.history ++ [⟨now, .committed, none⟩]
          statistics := w.workspace.buffer.statistics } ∧
      ∀ e, concluded now (.error e) w =
        { w.report with
          history := w.report.history ++ [⟨now, e.status, some e.message⟩]
          statistics := ⟨0, 0⟩
          errorMessage := some e.message
          validationReport := e.validationReport? } :=
  ⟨Report.push_eq (r := { w.report with statistics := w.workspace.buffer.statistics }) h now _ _,
    fun e => Report.push_eq (r := { w.report with
      statistics := ⟨0, 0⟩, errorMessage := some e.message,
      validationReport := e.validationReport? }) h now _ _⟩

theorem Failure.exists_asAudit (e : Failure) : ∃ m, e.asAudit = .audit m := by
  cases e <;> exact ⟨_, rfl⟩

theorem Failure.isSome_validationReport?_iff (e : Failure) :
    e.validationReport?.isSome ↔ ∃ m report, e = .conformance m report := by
  cases e <;> simp [Failure.validationReport?]

theorem Setup.Builds.id_report {s : Setup} {p : Pipeline} (h : s.Builds p) (now : Instant)
    (r : Request) (l : Ledger) :
    (p.report now r l).id = r.id ∧ (p.report now r l).podId = r.podId := by
  obtain ⟨hok, herror⟩ := Pipeline.concluded_eq now (p.isFinished_run now r l)
  have hrun : (p.run now r l).2.report.id = r.id ∧ (p.run now r l).2.report.podId = r.podId := by
    rcases h.report_run now r l with ⟨-, -, hr⟩ | ⟨-, hr⟩
    · rw [hr]
      exact ⟨rfl, rfl⟩
    · rw [hr]
      exact ⟨rfl, rfl⟩
  rw [Pipeline.report]
  cases (p.run now r l).1 with
  | error e => rw [herror e]; exact hrun
  | ok u => rw [hok]; exact hrun

/-- **One report for each request.** Whatever becomes of a request, one report on it is written to
the change log, the same is published in one event, and it is answered; if it cannot be written, it
is published all the same, and the failure of the change log is answered. Its history says that the
request was queued, at the time in its identifier; that it is prepared, if that is wanted and all
stages that do not store passed; and at last that it is committed, if it was not refused and all
stages passed, and otherwise the status of the first failure. A failure is told with its message and
with nothing stored, and with the report of a check just if it is a failed check. -/
theorem one_report_per_run {s : Setup} {p : Pipeline} (hb : s.build = .ok p) (now : Instant)
    (r : Request) (l : Ledger) :
    let answer := (p.process now r l).1
    let after := (p.process now r l).2
    let report := p.report now r l
    let event : Event := ⟨r.podId, report⟩
    let failure := p.failure? now r l
    let prepared := r.fault? = none ∧
      ∀ stage ∈ p.stages, stage.isStorage = false → p.Passes now r l stage
    let queuedAt := Pipeline.queuedAt now r
    (report.id = r.id ∧ report.podId = r.podId ∧
      after.reports = l.reports.write report ∧ after.outbox = l.outbox.publish event) ∧
    (∀ log, l.reports = .memory log → answer = .ok report ∧ ∀ podId id,
      after.reports.log.get? podId id =
        if podId = r.podId ∧ id = r.id then some report else log.get? podId id) ∧
    (∀ e, l.reports = .failing e → ∃ m, answer = .error (.audit m)) ∧
    (l.outbox.subscribed = true → 0 < l.outbox.capacity → ∃ k ≤ l.outbox.waiting.length,
      after.outbox.waiting = l.outbox.waiting.drop k ++ [event] ∧
        after.outbox.missed = l.outbox.missed + k) ∧
    (∃ noted, report.history = ⟨queuedAt, .queued, none⟩ :: noted ++
        [⟨now, failure.elim .committed Failure.status, failure.map Failure.message⟩] ∧
      (s.config.recordPreprocessed = true ∧ prepared ∧ noted = [⟨now, .preprocessed, none⟩] ∨
        ¬ (s.config.recordPreprocessed = true ∧ prepared) ∧ noted = [])) ∧
    (failure = none ↔ r.fault? = none ∧ ∀ stage ∈ p.stages, p.Passes now r l stage) ∧
    (report.status = .committed ↔ failure = none) ∧
    report.errorMessage = failure.map Failure.message ∧
    (failure ≠ none → report.statistics = ⟨0, 0⟩) ∧
    (report.validationReport = failure.bind Failure.validationReport? ∧
      (report.validationReport.isSome ↔ ∃ m violations,
        failure = some (.conformance m violations))) ∧
    (Ulid.isValid r.id = true → ∃ ds, r.id.toList.mapM Ulid.value? = some ds ∧
      ds.length = Ulid.size ∧
        queuedAt = .ofMilliseconds (Ulid.number (ds.take 10) % 2 ^ 48)) := by
  intro answer after report event failure prepared queuedAt
  have h := Setup.build_eq_ok_iff.mp hb
  have hrun : (p.run now r l).1 = match failure with
      | some e => .error e
      | none => .ok () := p.fst_run now r l
  obtain ⟨hok, herror⟩ := Pipeline.concluded_eq now (p.isFinished_run now r l)
  -- the report is that of the run, with what the failure adds
  obtain ⟨noted, hbase, hnoted⟩ : ∃ noted : List StatusEntry,
      (p.run now r l).2.report =
        { Report.queued r queuedAt with history := ⟨queuedAt, .queued, none⟩ :: noted } ∧
      (s.config.recordPreprocessed = true ∧ prepared ∧ noted = [⟨now, .preprocessed, none⟩] ∨
        ¬ (s.config.recordPreprocessed = true ∧ prepared) ∧ noted = []) := by
    rcases h.report_run now r l with ⟨hwanted, hp, hr⟩ | ⟨hnot, hr⟩
    · exact ⟨_, hr, Or.inl ⟨hwanted, hp, rfl⟩⟩
    · exact ⟨[], hr, Or.inr ⟨hnot, rfl⟩⟩
  have hreport : report = { Report.queued r queuedAt with
      history := ⟨queuedAt, .queued, none⟩ :: noted ++
        [⟨now, failure.elim .committed Failure.status, failure.map Failure.message⟩]
      statistics := report.statistics
      errorMessage := failure.map Failure.message
      validationReport := failure.bind Failure.validationReport? } := by
    have hconcluded : report = Pipeline.concluded now (p.run now r l).1 (p.run now r l).2 := rfl
    cases hf : failure with
    | none =>
      rw [hf] at hrun
      rw [hrun, hok, hbase] at hconcluded
      rw [hconcluded]
      rfl
    | some e =>
      rw [hf] at hrun
      rw [hrun, herror e, hbase] at hconcluded
      rw [hconcluded]
      rfl
  have hstatus : report.status = .committed ↔ failure = none := by
    rw [p.status_report_eq_committed_iff now r l, hrun]
    cases failure with
    | none => exact iff_of_true rfl rfl
    | some e => exact iff_of_false (by rintro ⟨⟩) (by rintro ⟨⟩)
  have hviolations : report.validationReport = failure.bind Failure.validationReport? := by
    rw [hreport]
  obtain ⟨hid, hpod⟩ : report.id = r.id ∧ report.podId = r.podId := h.id_report now r l
  have houtbox : after.outbox = l.outbox.publish event := by
    show l.outbox.publish ⟨report.podId, report⟩ = _
    rw [hpod]
  refine ⟨⟨hid, hpod, rfl, houtbox⟩, fun log hlog => ⟨?_, fun podId id => ?_⟩, fun e he => ?_,
    fun hsubscribed hcapacity => ?_, ⟨noted, by rw [hreport], hnoted⟩,
    h.failure?_eq_none_iff now r l, hstatus, by rw [hreport], fun hfailure => ?_,
    ⟨hviolations, ?_⟩, fun hvalid => ?_⟩
  · exact p.fst_process_of_memory now r l hlog
  · show (l.reports.write report).log.get? podId id = _
    rw [hlog, ← hpod, ← hid]
    exact ChangeLog.get?_write report log podId id
  · obtain ⟨m, hm⟩ := e.exists_asAudit
    exact ⟨m, (p.fst_process_of_failing now r l he).trans (by rw [hm])⟩
  · obtain ⟨k, hk, hpublish⟩ := Outbox.exists_publish hsubscribed hcapacity event
    exact ⟨k, hk, by rw [houtbox, hpublish], by rw [houtbox, hpublish]⟩
  · obtain ⟨e, he⟩ := Option.ne_none_iff_exists'.mp hfailure
    rw [he] at hrun
    exact p.statistics_report_of_error now r l hrun
  · rw [hviolations]
    cases failure with
    | none => simp
    | some e => simpa using e.isSome_validationReport?_iff
  · obtain ⟨n, hn⟩ := Option.isSome_iff_exists.mp hvalid
    obtain ⟨ds, hds, hlength, htime⟩ := Ulid.exists_digits hn
    refine ⟨ds, hds, hlength, ?_⟩
    show r.queuedAt?.getD now = _
    rw [Request.queuedAt?, hn, ← htime]
    rfl

/-- A request is prepared when its store fails, and the change log cannot be written either. -/
theorem one_report_per_run_of_failing :
    let st : Statement := ⟨"urn:s", "urn:p", .literal "1", "", none, none⟩
    let config := { Config.standard with
      stages := [.materialize, .storage "default"], recordPreprocessed := true }
    let s := { Setup.ofConfig config fun _ => .error (.query "") with
      loaders := [.memory [("a", [st])]]
      stores := [.failing "default" (.storage "default" "full")]
      reports := .failing (.internal "down")
      outbox := .new 1 true }
    let r := (Request.new "01ARZ3NDEKTSV4RRFFQ69G5FAV" "pod").withInsertRef ⟨"mem://a", none⟩
    ∃ p, s.build = .ok p ∧
      let report := p.report ⟨0, 0⟩ r s.ledger
      (∃ m, (p.process ⟨0, 0⟩ r s.ledger).1 = .error (.audit m)) ∧
      (p.process ⟨0, 0⟩ r s.ledger).2.outbox.waiting = [⟨"pod", report⟩] ∧
      report.history.map StatusEntry.status = [.queued, .preprocessed, .internalError] ∧
      report.statistics = ⟨0, 0⟩ ∧
      report.errorMessage = some "Storage error in backend 'default': full" := by
  intro st config s r
  let p : Pipeline := ⟨[.process "materialize" (Materialize.stage (fun _ => .error (.query ""))
    s.loaders s.limits), .store "default"], "default", true⟩
  have hb : s.build = .ok p := rfl
  have hfailure : p.failure? ⟨0, 0⟩ r s.ledger = some (.storage "default" "full") := by
    decide +kernel
  obtain ⟨-, -, hanswer, houtbox, -, -, -, hmessage, hstatistics, -⟩ :=
    one_report_per_run hb ⟨0, 0⟩ r s.ledger
  obtain ⟨k, -, hwaiting, -⟩ := houtbox rfl (by decide)
  rw [hfailure] at hmessage hstatistics
  refine ⟨p, hb, hanswer _ rfl, ?_, by decide +kernel, hstatistics (by simp), hmessage⟩
  rw [hwaiting, show s.ledger.outbox.waiting = [] from rfl, List.drop_nil]
  rfl

end GraphLedger
