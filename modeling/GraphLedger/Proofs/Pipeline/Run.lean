import GraphLedger.Proofs.Pipeline.Build

/-! # Runs of a pipeline

A request that can be processed runs through the preparing stages, which add to the buffer and touch
nothing else, and then through the storing stages. If it fails before the first storing stage, the
stores are as they were, however much is in the buffer by then.

* `stages_rel`: what each stage does, stages in a row do, by induction on the stages.
* `prepared_stages`: what preparing stages do.
* `status_report_eq_committed_iff`: a request is committed if and only if no stage failed.
* `run_cases`: the three ways in which a request can go, up to its first storing stage.
* `run_of_failsEarly`: a failure before that stage leaves the stores as they were.
* `process_all_or_nothing`: so does every failure with stores in memory. -/

namespace GraphLedger

namespace Run
variable (now : Instant)

/-! ### Stages in a row -/

theorem stages_append (ss ts : List Stage) (r : Run) :
    stages now (ss ++ ts) r =
      match stages now ss r with
      | (.ok (), r) => stages now ts r
      | (.error e, r) => (.error e, r) := by
  induction ss generalizing r with
  | nil => rfl
  | cons s ss ih =>
    rw [List.cons_append, stages, stages]
    rcases r.stage now s with ⟨e | u, r'⟩
    · rfl
    · exact ih r'

theorem fst_chain (ss : List Stage) (r : Run) : (chain now ss r).1 = (stages now ss r).1 := by
  rw [chain]
  rcases stages now ss r with ⟨e | u, r'⟩ <;> rfl

theorem chain_append_of_ok {ss : List Stage} {r r' : Run} (h : stages now ss r = (.ok (), r'))
    (ts : List Stage) : chain now (ss ++ ts) r = chain now ts r' := by
  rw [chain, stages_append, h]
  rfl

theorem chain_append_of_error {ss : List Stage} {r r' : Run} {e : Failure}
    (h : stages now ss r = (.error e, r')) (ts : List Stage) :
    chain now (ss ++ ts) r = (.error e, r') := by
  rw [chain, stages_append, h]

theorem stores_chain (ss : List Stage) (r : Run) :
    (chain now ss r).2.stores = (stages now ss r).2.stores := by
  rw [chain]
  rcases stages now ss r with ⟨e | u, r'⟩
  · rfl
  · exact r'.stores_notePreprocessed now

theorem workspace_chain (ss : List Stage) (r : Run) :
    (chain now ss r).2.workspace = (stages now ss r).2.workspace := by
  rw [chain]
  rcases stages now ss r with ⟨e | u, r'⟩
  · rfl
  · exact r'.workspace_notePreprocessed now

/-- **What each stage does, stages in a row do**, whether one of them fails or not, if it is a
relation that nothing and one after the other keep to. -/
theorem stages_rel {R : Run → Run → Prop} (hrefl : ∀ r, R r r)
    (htrans : ∀ {r₁ r₂ r₃ : Run}, R r₁ r₂ → R r₂ r₃ → R r₁ r₃) {ss : List Stage}
    (hstep : ∀ s ∈ ss, ∀ r : Run, R r (r.stage now s).2) (r : Run) : R r (stages now ss r).2 := by
  induction ss generalizing r with
  | nil => exact hrefl r
  | cons s ss ih =>
    obtain ⟨hone, hrest⟩ := List.forall_mem_cons.mp hstep
    have hr := hone r
    rw [stages]
    rcases hs : r.stage now s with ⟨e | u, r'⟩
    · rw [hs] at hr
      exact hr
    · rw [hs] at hr
      exact htrans hr (ih hrest r')

/-- The stages that are started, with their outcomes. -/
def trace : List Stage → Run → List (Stage × Except Failure Unit)
  | [], _ => []
  | s :: ss, r =>
    match r.stage now s with
    | (.ok (), r) => (s, .ok ()) :: trace ss r
    | (.error e, _) => [(s, .error e)]

theorem mem_of_mem_trace {ss : List Stage} {r : Run} {s : Stage} {o : Except Failure Unit}
    (h : (s, o) ∈ trace now ss r) : s ∈ ss := by
  induction ss generalizing r with
  | nil => cases h
  | cons t ss ih =>
    rw [trace] at h
    rcases hs : r.stage now t with ⟨e | u, r'⟩
    · rw [hs] at h
      simp only [List.mem_singleton, Prod.mk.injEq] at h
      simp [h.1]
    · rw [hs] at h
      rcases List.mem_cons.mp h with h | h
      · cases h; simp
      · exact List.mem_cons_of_mem t (ih h)

theorem trace_append (ss ts : List Stage) (r : Run) :
    trace now (ss ++ ts) r = trace now ss r ++
      match stages now ss r with
      | (.ok (), r) => trace now ts r
      | (.error _, _) => [] := by
  induction ss generalizing r with
  | nil => rfl
  | cons s ss ih =>
    rw [List.cons_append, trace, trace, stages]
    rcases r.stage now s with ⟨e | u, r'⟩
    · rfl
    · exact congrArg _ (ih r')

theorem stages_eq_error_of_mem_trace {ss : List Stage} {r : Run} {s : Stage} {e : Failure}
    (h : (s, .error e) ∈ trace now ss r) : (stages now ss r).1 = .error e := by
  induction ss generalizing r with
  | nil => cases h
  | cons t ss ih =>
    rw [trace] at h
    rw [stages]
    rcases hs : r.stage now t with ⟨e' | u, r'⟩
    · rw [hs] at h
      simp only [List.mem_singleton, Prod.mk.injEq, Except.error.injEq] at h
      rw [h.2]
    · rw [hs] at h
      rcases List.mem_cons.mp h with h | h
      · cases h
      · exact ih h

/-! ### Preparing -/

/-- What preparing stages do: they add to the buffer, and leave stores and report alone. -/
structure Prepared (r r' : Run) : Prop where
  stores : r'.stores = r.stores
  report : r'.report = r.report
  pending : r'.pending = r.pending
  added : ∃ rs, (∀ x ∈ rs, r.workspace.buffer.Mints x) ∧
    r'.workspace.buffer = r.workspace.buffer.add rs

theorem prepared_refl (r : Run) : r.Prepared r := ⟨rfl, rfl, rfl, [], by simp, rfl⟩

theorem Prepared.trans {r₁ r₂ r₃ : Run} (h : r₁.Prepared r₂) (h' : r₂.Prepared r₃) :
    r₁.Prepared r₃ := by
  obtain ⟨rs, hrs, hb⟩ := h.added
  obtain ⟨rs', hrs', hb'⟩ := h'.added
  rw [hb] at hrs' hb'
  refine ⟨h'.stores.trans h.stores, h'.report.trans h.report, h'.pending.trans h.pending,
    rs ++ rs', fun x hx => ?_, by rw [hb', Buffer.add_append]⟩
  rcases List.mem_append.mp hx with hx | hx
  · exact hrs x hx
  · exact Buffer.mints_add.mp (hrs' x hx)

theorem prepared_process {step : Step Unit} (h : step.OnlyAdds) (r : Run) :
    r.Prepared (r.process step).2 :=
  ⟨rfl, rfl, rfl, h r.workspace⟩

/-- **Preparing stages** touch nothing but the buffer, whether one of them fails or not. -/
theorem prepared_stages {ss : List Stage}
    (h : ∀ s ∈ ss, ∃ name step, s = .process name step ∧ step.OnlyAdds) (r : Run) :
    r.Prepared (stages now ss r).2 := by
  refine stages_rel now prepared_refl Prepared.trans (fun s hs r => ?_) r
  obtain ⟨name, step, rfl, hstep⟩ := h s hs
  exact prepared_process hstep r

section Prepared
variable {r r' : Run} (h : r.Prepared r')
include h

theorem Prepared.valid (hv : r.workspace.buffer.Valid) : r'.workspace.buffer.Valid := by
  obtain ⟨rs, -, hb⟩ := h.added
  rw [hb]; exact hv.add rs

theorem Prepared.request : r'.workspace.buffer.request = r.workspace.buffer.request := by
  obtain ⟨rs, -, hb⟩ := h.added
  rw [hb, Buffer.request_add]

theorem Prepared.statistics :
    r'.workspace.buffer.statistics = r.workspace.buffer.statistics := by
  obtain ⟨rs, -, hb⟩ := h.added
  rw [hb, Buffer.statistics_add]

end Prepared

/-! ### Reports -/

theorem isFinished_notePreprocessed {r : Run} (h : r.report.isFinished = false) :
    (r.notePreprocessed now).report.isFinished = false := by
  unfold notePreprocessed
  split
  · rw [Report.isFinished, Report.status_push, h]; rfl
  · exact h

theorem isFinished_stages (ss : List Stage) {r : Run} (h : r.report.isFinished = false) :
    (stages now ss r).2.report.isFinished = false := by
  refine stages_rel now (R := fun r r' => r.report.isFinished = false → r'.report.isFinished = false)
    (fun _ => id) (fun h₁ h₂ => h₂ ∘ h₁) (fun s _ r h => ?_) r h
  cases s with
  | process name step => exact h
  | store id =>
    have hnote := isFinished_notePreprocessed now h
    rw [stage, store]
    dsimp only
    split <;> exact hnote

theorem isFinished_chain (ss : List Stage) {r : Run} (h : r.report.isFinished = false) :
    (chain now ss r).2.report.isFinished = false := by
  have hss := isFinished_stages now ss h
  rw [chain]
  rcases hs : stages now ss r with ⟨e | u, r'⟩
  · rw [hs] at hss; exact hss
  · rw [hs] at hss; exact isFinished_notePreprocessed now hss

end Run

/-! ### Outcomes -/

theorem Failure.status_ne_committed (e : Failure) : e.status ≠ .committed := by
  cases e <;> simp [Failure.status]

namespace Pipeline
variable (p : Pipeline) (now : Instant) (r : Request) (l : Ledger)

/-- The report of a request, which is recorded, published and answered. -/
def report : Report := concluded now (p.run now r l).1 (p.run now r l).2

theorem process_eq :
    p.process now r l =
      (match l.reports.failure? with
        | some e => .error e
        | none => .ok (p.report now r l),
      recorded l (p.run now r l).2 (p.report now r l)) := rfl

theorem stores_process : (p.process now r l).2.stores = (p.run now r l).2.stores := rfl

/-- A request when its first storing stage begins, if it comes so far. -/
def prepared : Run := (Run.stages now p.preparing (p.start now r l)).2

/-- The stages of a request that are started, with their outcomes. -/
def trace : List (Stage × Except Failure Unit) :=
  match r.fault? with
  | some _ => []
  | none => Run.trace now p.stages (p.start now r l)

theorem isFinished_run : (p.run now r l).2.report.isFinished = false := by
  unfold run
  split
  · rfl
  · exact Run.isFinished_chain now p.stages rfl

theorem status_concluded {outcome : Except Failure Unit} {w : Run}
    (h : w.report.isFinished = false) :
    (concluded now outcome w).status =
      match outcome with
      | .ok () => .committed
      | .error e => e.status := by
  rcases outcome with e | u
  · have h' : ({ w.report with
        validationReport := e.validationReport?, statistics := ⟨0, 0⟩,
        errorMessage := some e.message } : Report).isFinished = false := h
    exact (Report.status_push _ now _ _).trans (by rw [h']; rfl)
  · have h' : ({ w.report with statistics := w.workspace.buffer.statistics } : Report).isFinished =
        false := h
    exact (Report.status_push _ now _ _).trans (by rw [h']; rfl)

/-- **A request is committed** if and only if nothing failed. -/
theorem status_report_eq_committed_iff :
    (p.report now r l).status = .committed ↔ (p.run now r l).1 = .ok () := by
  rw [report, status_concluded now (p.isFinished_run now r l)]
  rcases (p.run now r l).1 with e | u
  · exact iff_of_false e.status_ne_committed (by rintro ⟨⟩)
  · exact iff_of_true rfl rfl

theorem statistics_report_of_error {e : Failure} (h : (p.run now r l).1 = .error e) :
    (p.report now r l).statistics = ⟨0, 0⟩ := by
  rw [report, h]
  exact Report.statistics_push _ _ _ _

theorem statistics_report_of_ok (h : (p.run now r l).1 = .ok ()) :
    (p.report now r l).statistics = (p.run now r l).2.workspace.buffer.statistics := by
  rw [report, h]
  exact Report.statistics_push _ _ _ _

/-- **How a request goes.** It is refused, or it fails while it is prepared, or it comes to its
first storing stage. -/
theorem run_cases :
    (∃ e, r.fault? = some e ∧ p.run now r l = (.error (.ofRequest e), p.start now r l)) ∨
    (∃ e, r.fault? = none ∧
      Run.stages now p.preparing (p.start now r l) = (.error e, p.prepared now r l) ∧
      p.run now r l = (.error e, p.prepared now r l)) ∨
    r.fault? = none ∧
      Run.stages now p.preparing (p.start now r l) = (.ok (), p.prepared now r l) ∧
      p.run now r l = (p.prepared now r l).chain now p.storing := by
  cases hf : r.fault? with
  | some e => exact Or.inl ⟨e, rfl, by rw [run, hf]⟩
  | none =>
    have hrun : p.run now r l = (p.start now r l).chain now (p.preparing ++ p.storing) := by
      rw [run, hf, p.preparing_append_storing]
    rcases hs : Run.stages now p.preparing (p.start now r l) with ⟨e | u, w⟩
    · have hw : p.prepared now r l = w := congrArg Prod.snd hs
      rw [Run.chain_append_of_error now hs] at hrun
      exact Or.inr (Or.inl ⟨e, rfl, by rw [hw], by rw [hw, hrun]⟩)
    · have hw : p.prepared now r l = w := congrArg Prod.snd hs
      rw [Run.chain_append_of_ok now hs] at hrun
      exact Or.inr (Or.inr ⟨rfl, by rw [hw], by rw [hw, hrun]⟩)

theorem stages_preparing_of_ok (hok : (p.run now r l).1 = .ok ()) :
    (Run.stages now p.preparing (p.start now r l)).1 = .ok () := by
  rcases p.run_cases now r l with ⟨e, -, hrun⟩ | ⟨e, -, -, hrun⟩ | ⟨-, hs, -⟩
  · rw [hrun] at hok; cases hok
  · rw [hrun] at hok; cases hok
  · rw [hs]

theorem trace_eq (hf : r.fault? = none) :
    p.trace now r l = Run.trace now p.preparing (p.start now r l) ++
      match Run.stages now p.preparing (p.start now r l) with
      | (.ok (), w) => Run.trace now p.storing w
      | (.error _, _) => [] := by
  rw [trace, hf, ← p.preparing_append_storing]
  exact Run.trace_append now _ _ _

/-- Whether a request is refused, or fails at a stage that does not store. -/
def FailsEarly : Prop :=
  r.fault? ≠ none ∨ ∃ stage e, stage.isStorage = false ∧ (stage, .error e) ∈ p.trace now r l

end Pipeline

/-! ### All or nothing -/

theorem RecordStore.commitIn_of_memory (id : String) (b : Buffer) : ∀ {stores : List RecordStore},
    (∀ s ∈ stores, ∃ m, s = .memory m) →
      ∃ stores' b', commitIn id stores b = .ok (stores', b') ∧ ∀ s ∈ stores', ∃ m, s = .memory m
  | [], _ => ⟨[], b, rfl, by simp⟩
  | s :: stores, h => by
    obtain ⟨⟨m, rfl⟩, hrest⟩ := List.forall_mem_cons.mp h
    rw [commitIn]
    split_ifs
    · refine ⟨_, _, rfl, ?_⟩
      rw [List.forall_mem_cons]
      exact ⟨⟨_, rfl⟩, hrest⟩
    · obtain ⟨stores', b', hc, hm⟩ := commitIn_of_memory id b hrest
      rw [hc]
      refine ⟨_, _, rfl, ?_⟩
      rw [List.forall_mem_cons]
      exact ⟨⟨m, rfl⟩, hm⟩

theorem Run.stages_of_memory (now : Instant) {ss : List Stage} {r : Run}
    (hss : ∀ s ∈ ss, s.isStorage = true) (hr : ∀ s ∈ r.stores, ∃ m, s = .memory m) :
    (Run.stages now ss r).1 = .ok () := by
  induction ss generalizing r with
  | nil => rfl
  | cons s ss ih =>
    obtain ⟨hs, hrest⟩ := List.forall_mem_cons.mp hss
    cases s with
    | process name step => cases hs
    | store id =>
      obtain ⟨stores', b', hc, hm⟩ := RecordStore.commitIn_of_memory id r.workspace.buffer hr
      rw [Run.stages, Run.stage, Run.store]
      simp only [Run.stores_notePreprocessed, Run.workspace_notePreprocessed, hc]
      exact ih hrest hm

namespace Setup.Builds
variable {s : Setup} {p : Pipeline} (h : s.Builds p) (now : Instant) (r : Request) (l : Ledger)
include h

theorem prepared_start : (p.start now r l).Prepared (p.prepared now r l) :=
  Run.prepared_stages now (fun _ => h.preparing_onlyAdds) _

theorem isStorage_of_mem_storing {stage : Stage} (hs : stage ∈ p.storing) :
    stage.isStorage = true := by
  rw [h.storing_eq] at hs
  obtain ⟨q, -, rfl⟩ := List.mem_map.mp hs
  rfl

/-- **A request that fails early** touches no store: no storing stage is even started. -/
theorem run_of_failsEarly (hearly : p.FailsEarly now r l) :
    (∃ e, (p.run now r l).1 = .error e) ∧ (p.run now r l).2.stores = l.stores ∧
      ∀ q ∈ p.trace now r l, q.1.isStorage = false := by
  rcases p.run_cases now r l with ⟨e, hf, hrun⟩ | ⟨e, hf, hs, hrun⟩ | ⟨hf, hs, hrun⟩
  · rw [hrun]
    refine ⟨⟨_, rfl⟩, rfl, ?_⟩
    rw [Pipeline.trace, hf]
    simp
  · rw [hrun]
    refine ⟨⟨_, rfl⟩, (h.prepared_start now r l).stores, fun q hq => ?_⟩
    rw [p.trace_eq now r l hf, hs, List.append_nil] at hq
    exact Pipeline.isStorage_of_mem_preparing (Run.mem_of_mem_trace now hq)
  · -- all preparing stages succeed, so what fails stores
    rcases hearly with hfault | ⟨stage, e, hstage, hmem⟩
    · exact absurd hf hfault
    · rw [p.trace_eq now r l hf, hs] at hmem
      rcases List.mem_append.mp hmem with hmem | hmem
      · have he := Run.stages_eq_error_of_mem_trace now hmem
        rw [hs] at he
        cases he
      · have hstorage := h.isStorage_of_mem_storing (Run.mem_of_mem_trace now hmem)
        rw [hstage] at hstorage
        cases hstorage

theorem error_or_chain :
    (∃ e, (p.run now r l).1 = .error e ∧ (p.run now r l).2.stores = l.stores) ∨
      p.run now r l = (p.prepared now r l).chain now p.storing := by
  rcases p.run_cases now r l with ⟨e, -, hrun⟩ | ⟨e, -, -, hrun⟩ | ⟨-, -, hrun⟩
  · exact Or.inl ⟨_, by rw [hrun], by rw [hrun]; rfl⟩
  · exact Or.inl ⟨_, by rw [hrun], by rw [hrun]; exact (h.prepared_start now r l).stores⟩
  · exact Or.inr hrun

theorem error_or_ok_of_memory (hl : ∀ store ∈ l.stores, ∃ m, store = .memory m) :
    (∃ e, (p.run now r l).1 = .error e ∧ (p.run now r l).2.stores = l.stores) ∨
      (p.run now r l).1 = .ok () := by
  rcases h.error_or_chain now r l with herror | hrun
  · exact Or.inl herror
  · right
    have hok := Run.stages_of_memory now (fun _ => h.isStorage_of_mem_storing)
      (r := p.prepared now r l) (by rw [(h.prepared_start now r l).stores]; exact hl)
    rw [hrun, Run.chain]
    rcases hs : Run.stages now p.storing (p.prepared now r l) with ⟨e | u, w⟩
    · rw [hs] at hok; cases hok
    · rfl

end Setup.Builds

/-- **All or nothing.** A request that is refused, or fails at a stage that works on the buffer,
leaves all stores as they were, starts no storing stage, and is reported with nothing stored. If all
stores are in memory, every request that is not committed leaves them as they were. -/
theorem process_all_or_nothing {s : Setup} {p : Pipeline} (hb : s.build = .ok p) (now : Instant)
    (r : Request) (l : Ledger) :
    (p.FailsEarly now r l →
      (p.process now r l).2.stores = l.stores ∧
        (∀ q ∈ p.trace now r l, q.1.isStorage = false) ∧
          (p.report now r l).statistics = ⟨0, 0⟩) ∧
    ((∀ store ∈ l.stores, ∃ m, store = .memory m) →
      (p.report now r l).status ≠ .committed → (p.process now r l).2.stores = l.stores) := by
  have h := Setup.build_eq_ok_iff.mp hb
  rw [p.stores_process]
  constructor
  · intro hearly
    obtain ⟨⟨e, he⟩, hstores, htrace⟩ := h.run_of_failsEarly now r l hearly
    exact ⟨hstores, htrace, p.statistics_report_of_error now r l he⟩
  · intro hl hstatus
    rcases h.error_or_ok_of_memory now r l hl with ⟨e, -, hstores⟩ | hok
    · exact hstores
    · exact absurd ((p.status_report_eq_committed_iff now r l).mpr hok) hstatus

/-- One document is loaded and in the buffer when the next is not found. -/
theorem process_all_or_nothing_of_missing :
    let st : Statement := ⟨"urn:s", "urn:p", .literal "1", "", none, none⟩
    let config := { Config.standard with stages := [.materialize, .storage "default"] }
    let s := { Setup.ofConfig config fun _ => .error (.query "") with
      loaders := [.memory [("a", [st])]] }
    let r := ((Request.new "01ARZ3NDEKTSV4RRFFQ69G5FAV" "pod").withInsertRef
      ⟨"mem://a", none⟩).withInsertRef ⟨"mem://b", none⟩
    ∃ p, s.build = .ok p ∧ p.FailsEarly ⟨0, 0⟩ r s.ledger ∧
      (p.prepared ⟨0, 0⟩ r s.ledger).workspace.buffer.size = 1 ∧
      (p.report ⟨0, 0⟩ r s.ledger).status = .internalError ∧
      (p.report ⟨0, 0⟩ r s.ledger).statistics = ⟨0, 0⟩ ∧
      (p.process ⟨0, 0⟩ r s.ledger).2.stores = [.memory (.new "default" .all)] := by
  intro st config s r
  let p : Pipeline := ⟨[.process "materialize" (Materialize.stage (fun _ => .error (.query ""))
    s.loaders s.limits), .store "default"], "default", false⟩
  have hb : s.build = .ok p := rfl
  have hearly : p.FailsEarly ⟨0, 0⟩ r s.ledger := by
    have hany : ((p.trace ⟨0, 0⟩ r s.ledger).any fun q => !q.1.isStorage && !q.2.isOk) = true := by
      decide +kernel
    obtain ⟨⟨stage, o⟩, hq, hfails⟩ := List.any_eq_true.mp hany
    rw [Bool.and_eq_true, Bool.not_eq_true', Bool.not_eq_true'] at hfails
    rcases o with e | u
    · exact Or.inr ⟨stage, e, hfails.1, hq⟩
    · cases hfails.2
  have hstatus : (p.report ⟨0, 0⟩ r s.ledger).status = .internalError := by decide +kernel
  have hmemory : ∀ store ∈ s.ledger.stores, ∃ m, store = .memory m :=
    List.forall_mem_singleton.mpr ⟨.new "default" .all, rfl⟩
  obtain ⟨hfails, hkept⟩ := process_all_or_nothing hb ⟨0, 0⟩ r s.ledger
  exact ⟨p, hb, hearly, by decide +kernel, hstatus, (hfails hearly).2.2,
    hkept hmemory (by rw [hstatus]; decide)⟩

end GraphLedger
