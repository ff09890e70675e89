import GraphLedger.Proofs.Pipeline.History
import GraphLedger.Proofs.Stage.Failing

/-! # Why requests fail

A request that is not committed ends in the status of the first failure. With stores in memory the
storing stages do not fail, so that the failure is a refusal or comes from one of the stages that
prepare the request. Each of these fails only for a cause in the request, by induction on the stages
that are run on its buffer, and the cause tells the status: it is for the sender of the request to
tell a request that may succeed when it is sent again from one that cannot.

* `Run.causedBy_stages`: why stages in a row fail.
* `Pipeline.causedBy_of_failure`: the cause of the failure of a request.
* `status_tells_cause`: what each status says. -/

namespace GraphLedger

/-- **The status of a failure tells its cause.** It is never one in which a request waits or is
committed. -/
theorem Failure.CausedBy.of_status {engine : QueryEngine} {loaders : List Loader} {r : Request}
    {e : Failure} (h : e.CausedBy engine loaders r) :
    (e.status = .assertionFailed → ∃ a index expected, (a, index) ∈ r.assertions.zipIdx ∧
      a.Contradicted engine ∧ e = Assertion.notMet index expected a.query) ∧
    (e.status = .noMatches ∨ e.status = .tooManyMatches → r.hasTemplates = true) ∧
    (e.status = .internalError →
      ∃ ref ∈ r.references, ∃ fault, ref.FailsWith loaders fault ∧ e = fault.toFailure) ∧
    e.status ∈ [Status.assertionFailed, .noMatches, .tooManyMatches, .internalError,
      .validationError] := by
  cases e with
  | assertionFailed m =>
    exact ⟨fun _ => h, by simp [status], by simp [status], by simp [status]⟩
  | noMatches m => exact ⟨by simp [status], fun _ => h, by simp [status], by simp [status]⟩
  | tooManyMatches count limit =>
    exact ⟨by simp [status], fun _ => h, by simp [status], by simp [status]⟩
  | reference m => exact ⟨by simp [status], by simp [status], fun _ => h, by simp [status]⟩
  | _ =>
    -- no other failure has a cause than those of which the request itself is one
    have hstatus : status _ = .validationError := h
    rw [hstatus]
    simp

theorem Run.causedBy_stages (now : Instant) {request : Request} {Q : Failure → Prop}
    {ss : List Stage}
    (hss : ∀ s ∈ ss, ∃ name step, s = .process name step ∧
      step.Meets request (fun _ => True) Q) {r : Run}
    (hr : r.workspace.buffer.request = request) {e : Failure}
    (he : (stages now ss r).1 = .error e) : Q e := by
  induction ss generalizing r with
  | nil => cases he
  | cons s ss ih =>
    obtain ⟨⟨name, step, rfl, hstep⟩, hrest⟩ := List.forall_mem_cons.mp hss
    obtain ⟨hrequest, hresult⟩ := hstep r.workspace hr
    rw [stages, stage, process] at he
    rcases hrun : step.run.run r.workspace with ⟨e' | u, w⟩
    · rw [hrun] at he hresult
      cases he
      exact hresult
    · rw [hrun] at he hrequest
      exact ih hrest hrequest he

namespace Setup.Builds
variable {s : Setup} {p : Pipeline} {t : QueryFixtures} (h : s.Builds p)
  (hengine : s.engine = some t.engine) (hloaders : ∀ l ∈ s.loaders, l.IsBuiltIn)
include h hengine hloaders

/-- **Preparing stages** fail for causes in the request that they work on. -/
theorem preparing_meets (r : Request) {stage : Stage} (hs : stage ∈ p.preparing) :
    ∃ name step, stage = .process name step ∧
      step.Meets r (fun _ => True) (Failure.CausedBy t.engine s.loaders r) := by
  have hanswers : ∀ query e, t.engine query = .error e → e.status = .validationError := by
    intro query e he
    unfold QueryFixtures.engine at he
    dsimp only at he
    split at he <;> cases he
  obtain ⟨id, -, hr⟩ := h.resolved stage ((List.takeWhile_prefix _).subset hs)
  have hrequire : s.requireEngine = .ok t.engine := by rw [requireEngine, hengine]
  cases id with
  | assertions =>
    rw [resolveStage, hrequire] at hr
    cases hr
    exact ⟨_, _, rfl, Assertion.meets_stage _⟩
  | materialize =>
    rw [resolveStage, hrequire] at hr
    cases hr
    exact ⟨_, _, rfl, Materialize.meets_stage hanswers hloaders _⟩
  | conformance =>
    cases hr
    exact ⟨_, _, rfl, Conformance.meets_stage _⟩
  | storage b =>
    rcases resolveStage_cases Step.kept_onlyAdds hr with ⟨b', -, rfl⟩ | ⟨hid, -⟩
    · cases Pipeline.isStorage_of_mem_preparing hs
    · cases hid

/-- **The failure of a request** has its cause in the request, if the stores are in memory. -/
theorem causedBy_of_failure (now : Instant) (r : Request) {l : Ledger}
    (hl : ∀ store ∈ l.stores, ∃ m, store = .memory m) {e : Failure}
    (he : (p.run now r l).1 = .error e) :
    e.CausedBy t.engine s.loaders r ∧ (r.fault? = none ∨ e.status = .validationError) := by
  rcases p.run_cases now r l with ⟨fault, -, hrun⟩ | ⟨e', hf, hstages, hrun⟩ | ⟨-, -, hrun⟩
  · rw [hrun] at he
    cases he
    exact ⟨Failure.causedBy_of_status rfl, Or.inr rfl⟩
  · rw [hrun] at he
    cases he
    refine ⟨?_, Or.inl hf⟩
    exact Run.causedBy_stages now (fun _ => h.preparing_meets hengine hloaders r) rfl
      (congrArg Prod.fst hstages)
  · -- storing stages do not fail
    have hok := Run.stages_of_memory now (fun _ => h.isStorage_of_mem_storing)
      (r := p.prepared now r l) (by rw [(h.prepared_start now r l).stores]; exact hl)
    rw [hrun, Run.fst_chain, hok] at he
    cases he

end Setup.Builds

theorem Pipeline.report_of_error (p : Pipeline) (now : Instant) (r : Request) (l : Ledger)
    {e : Failure} (he : (p.run now r l).1 = .error e) :
    (p.report now r l).status = e.status ∧ (p.report now r l).errorMessage = some e.message := by
  have hfinished := p.isFinished_run now r l
  rw [report, he]
  refine ⟨status_concluded now hfinished, ?_⟩
  rw [(concluded_eq now hfinished).2 e]

/-- **What the status of a request says.** A request ends with an assertion that failed only if one
of its assertions is contradicted by an answer without errors; without matches or with too many only
if it was not refused and has templates; with an internal error only if it has a reference that
cannot be resolved or loaded. The message of the report is about that assertion or reference. All
other requests end committed or with a validation error, and none is left waiting. -/
theorem status_tells_cause {s : Setup} {p : Pipeline} {t : QueryFixtures} (hb : s.build = .ok p)
    (hengine : s.engine = some t.engine) (hloaders : ∀ l ∈ s.loaders, l.IsBuiltIn)
    (now : Instant) (r : Request) (l : Ledger) (hl : ∀ store ∈ l.stores, ∃ m, store = .memory m) :
    let report := p.report now r l
    (report.status = .assertionFailed → ∃ a index expected, (a, index) ∈ r.assertions.zipIdx ∧
      a.Contradicted t.engine ∧
      report.errorMessage = some (Assertion.notMet index expected a.query).message) ∧
    (report.status = .noMatches ∨ report.status = .tooManyMatches →
      r.fault? = none ∧ r.hasTemplates = true) ∧
    (report.status = .internalError → ∃ ref ∈ r.references, ∃ fault,
      ref.FailsWith s.loaders fault ∧ report.errorMessage = some fault.toFailure.message) ∧
    report.status ∈ [Status.committed, .assertionFailed, .noMatches, .tooManyMatches,
      .internalError, .validationError] := by
  intro report
  have h := Setup.build_eq_ok_iff.mp hb
  cases hrun : (p.run now r l).1 with
  | ok u =>
    have hcommitted : report.status = .committed :=
      (p.status_report_eq_committed_iff now r l).mpr hrun
    rw [hcommitted]
    simp
  | error e =>
    have hfailed : report.status = e.status ∧ report.errorMessage = some e.message :=
      p.report_of_error now r l hrun
    obtain ⟨hcause, hfault⟩ := h.causedBy_of_failure hengine hloaders now r hl hrun
    obtain ⟨hassertion, htemplates, hreference, hmem⟩ := hcause.of_status
    rw [hfailed.1, hfailed.2]
    refine ⟨fun he => ?_, fun he => ⟨?_, htemplates he⟩, fun he => ?_, List.mem_cons_of_mem _ hmem⟩
    · obtain ⟨a, index, expected, ha, hcontradicted, rfl⟩ := hassertion he
      exact ⟨a, index, expected, ha, hcontradicted, rfl⟩
    · rcases hfault with hfault | hvalidation
      · exact hfault
      · rw [hvalidation] at he
        simp at he
    · obtain ⟨ref, href, fault, hfails, rfl⟩ := hreference he
      exact ⟨ref, href, fault, hfails, rfl⟩

/-- A request whose assertion holds ends with an internal error, as the second of its documents is
not there. -/
theorem status_tells_cause_of_missing :
    let t : QueryFixtures := QueryFixtures.empty.insert "{ id }" ⟨some (.array [.int 1]), []⟩
    let st : Statement := ⟨"urn:s", "urn:p", .literal "1", "", none, none⟩
    let config := { Config.standard with
      stages := [.assertions, .materialize, .conformance, .storage "default"] }
    let s := { Setup.ofConfig config t.engine with loaders := [.memory [("a", [st])]] }
    let r := (((Request.new "01ARZ3NDEKTSV4RRFFQ69G5FAV" "pod").withAssertion
      ⟨.nonEmptyResult, "{ id }"⟩).withInsertRef ⟨"mem://a", none⟩).withInsertRef ⟨"mem://b", none⟩
    ∃ p, s.build = .ok p ∧
      let report := p.report ⟨0, 0⟩ r s.ledger
      report.status = .internalError ∧ ∃ ref ∈ r.references, ∃ fault,
        ref.FailsWith s.loaders fault ∧ report.errorMessage = some fault.toFailure.message := by
  intro t st config s r
  let p : Pipeline := ⟨[.process "assertions" (Assertion.stage t.engine s.config.assertionParallelism),
    .process "materialize" (Materialize.stage t.engine s.loaders s.limits),
    .process "conformance" (Conformance.stage s.schemas), .store "default"], "default", false⟩
  have hb : s.build = .ok p := rfl
  have hloaders : ∀ l ∈ s.loaders, l.IsBuiltIn :=
    List.forall_mem_singleton.mpr (.memory [("a", [st])])
  have hmemory : ∀ store ∈ s.ledger.stores, ∃ m, store = .memory m :=
    List.forall_mem_singleton.mpr ⟨.new "default" .all, rfl⟩
  have hstatus : (p.report ⟨0, 0⟩ r s.ledger).status = .internalError := by decide +kernel
  obtain ⟨-, -, hreference, -⟩ :=
    status_tells_cause (t := t) hb rfl hloaders ⟨0, 0⟩ r s.ledger hmemory
  exact ⟨p, hb, hstatus, hreference hstatus⟩

end GraphLedger
