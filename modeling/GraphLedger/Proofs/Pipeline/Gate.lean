import GraphLedger.Proofs.Pipeline.Stored
import GraphLedger.Proofs.Shape.Conforms

/-! # The gate before the stores

The conformance stage is to keep records from the stores that do not conform to the schema of their
slice. It checks the buffer as it finds it. If the request is materialized before the check, nothing
comes to the buffer after it, and what the stores receive are whole subjects of what was checked, so
that it conforms as well. But a configuration may also name the conformance stage first. Then there
is nothing in the buffer yet that could fail, and records that do not conform are stored.

* `Builds.exists_gate`: where the gate is, and which stages around it are quiet.
* `Run.check_of_stages`: what passes the gate is checked, if no stage behind it adds anything.
* `committed_conforms`: what is stored conforms, if the gate comes after materializing.
* `Builds.gate_before_materialize`: the gate asks nothing of the records if it comes first.
* `not_conforms_of_early_gate`: so a record is stored that violates the schema. -/

namespace GraphLedger

/-! ### Quiet stages -/

/-- A stage works on the request without changing the buffer. -/
def Stage.Quiet (s : Stage) : Prop := ∃ name step, s = .process name step ∧ step.Quiet

/-- The conformance stage of a setup. -/
def Setup.gate (s : Setup) : Stage :=
  .process StageId.conformance.name (Conformance.stage s.schemas)

namespace Run
variable (now : Instant)

theorem buffer_stages_of_quiet {ss : List Stage} (h : ∀ s ∈ ss, s.Quiet) (r : Run) :
    (stages now ss r).2.workspace.buffer = r.workspace.buffer := by
  refine stages_rel now (R := fun r r' => r'.workspace.buffer = r.workspace.buffer)
    (fun _ => rfl) (fun h₁ h₂ => h₂.trans h₁) (fun s hs r => ?_) r
  obtain ⟨name, step, rfl, hquiet⟩ := h s hs
  exact hquiet r.workspace

theorem stage_gate (s : Setup) (r : Run) :
    r.stage now s.gate = (Conformance.check s.schemas r.workspace.buffer, r) := by
  rw [Setup.gate, stage, process, Conformance.run_stage]

/-- **What passes the gate is checked**, and stays so if the stages behind it are quiet. -/
theorem check_of_stages {s : Setup} {before after : List Stage} (h : ∀ t ∈ after, t.Quiet) {r : Run}
    (hok : (stages now (before ++ s.gate :: after) r).1 = .ok ()) :
    Conformance.check s.schemas
      (stages now (before ++ s.gate :: after) r).2.workspace.buffer = .ok () := by
  rw [stages_append] at hok ⊢
  rcases hbefore : stages now before r with ⟨e | u, r₁⟩
  · rw [hbefore] at hok; cases hok
  · rw [hbefore] at hok
    simp only [stages, stage_gate] at hok ⊢
    cases hcheck : Conformance.check s.schemas r₁.workspace.buffer with
    | error e => rw [hcheck] at hok; cases hok
    | ok u => exact (congrArg _ (buffer_stages_of_quiet now h r₁)).trans hcheck

end Run

/-! ### Where the gate is -/

namespace Setup

theorem quiet_resolveStage {s : Setup} {id : StageId} {stage : Stage}
    (h : s.resolveStage id = .ok stage) (hstorage : stage.isStorage = false)
    (hid : id ≠ .materialize) : stage.Quiet := by
  cases id with
  | assertions =>
    cases he : s.requireEngine with
    | error e => rw [resolveStage, he] at h; cases h
    | ok engine =>
      rw [resolveStage, he] at h
      cases h
      exact ⟨_, _, rfl, Step.reads_quiet.assertions _ _⟩
  | materialize => exact absurd rfl hid
  | conformance =>
    cases h
    exact ⟨_, _, rfl, Step.reads_quiet.conformance _⟩
  | storage b =>
    rw [isStorage_resolveStage h] at hstorage
    cases hstorage

/-- **Where the gate is.** It stands among the preparing stages as the configuration says, and those
on the side where nothing is materialized are quiet. -/
theorem Builds.exists_gate {s : Setup} {p : Pipeline} (h : s.Builds p) {ids ids' : List StageId}
    (hids : s.config.resolvedStages = ids ++ .conformance :: ids') :
    ∃ before after, p.preparing = before ++ s.gate :: after ∧
      (.materialize ∉ ids → ∀ stage ∈ before, stage.Quiet) ∧
      (.materialize ∉ ids' → ∀ stage ∈ after, stage.Quiet) := by
  have hstages := h.stages
  rw [hids] at hstages
  obtain ⟨before, rest, hsplit, hbefore, hrest⟩ := exists_append_of_forall₂ hstages
  obtain ⟨gate, behind, hgate, hbehind, rfl⟩ := List.forall₂_cons_left_iff.mp hrest
  have hgate : s.gate = gate := Except.ok.inj hgate
  subst hgate
  -- a stage before the gate does not store, as the gate does not
  have hstorage : ∀ stage ∈ before, stage.isStorage = false := fun stage hs => by
    have hordered := h.ordered
    rw [hsplit, List.pairwise_append] at hordered
    cases hstage : stage.isStorage with
    | false => rfl
    | true =>
      have hafter : s.gate.isStorage = true :=
        hordered.2.2 stage hs s.gate (List.mem_cons_self ..) hstage
      cases hafter
  have hpreparing : p.preparing =
      before ++ s.gate :: behind.takeWhile fun stage => !stage.isStorage := by
    rw [Pipeline.preparing, hsplit, List.takeWhile_append_of_pos fun stage hs => by
      simp [hstorage stage hs]]
    rfl
  have hquiet : ∀ {ids : List StageId} {l : List Stage},
      List.Forall₂ (fun id stage => s.resolveStage id = .ok stage) ids l → .materialize ∉ ids →
      ∀ stage ∈ l, stage.isStorage = false → stage.Quiet := fun hall hnot stage hs hstorage => by
    obtain ⟨id, hid, hr⟩ := exists_of_mem_forall₂ hall stage hs
    exact quiet_resolveStage hr hstorage fun he => hnot (he ▸ hid)
  refine ⟨before, _, hpreparing, fun hnot stage hs => ?_, fun hnot stage hs => ?_⟩
  · exact hquiet hbefore hnot stage hs (hstorage stage hs)
  · have hpasses := List.mem_takeWhile_imp hs
    exact hquiet hbehind hnot stage ((List.takeWhile_prefix _).subset hs) (by simpa using hpasses)

end Setup

/-! ### After materializing -/

/-- **Only what conforms is stored.** If a configuration names the conformance stage after the
materializing one, then what a committed request for a slice has stored, as shares that the stores
appended to their logs, conforms to the schema of the slice as it is expanded against the context of
the request: the insertions do, and the deletions do. -/
theorem committed_conforms {s : Setup} {p : Pipeline} (hb : s.build = .ok p)
    (horder : [StageId.materialize, .conformance].Sublist s.config.resolvedStages) {l : Ledger}
    (hl : p.Reaches s.ledger l) (now : Instant) {r : Request} {sliceId : String}
    (hslice : r.sliceId = some sliceId) (hc : (p.report now r l).status = .committed) :
    ∃ schema c share, s.schemas.lookup (r.podId, sliceId) = some schema ∧
      JsonLd.Context.parse r.context = .ok c ∧
      (p.process now r l).2.stores =
        l.stores.map (fun store => store.receiving r.podId (share store.id)) ∧
      (∀ store ∈ l.stores, share store.id ≠ [] → ∃ m, store = .memory m) ∧
      ∀ t, Conformance.Conforms schema c t
        ((handedOut l.stores share).filter fun x => x.changeType = t) := by
  have h := Setup.build_eq_ok_iff.mp hb
  have hok := (p.status_report_eq_committed_iff now r l).mp hc
  have hrequest : (p.prepared now r l).workspace.buffer.request = r :=
    (h.prepared_start now r l).request
  -- nothing is materialized behind the gate
  obtain ⟨ids, ids', hids, hmem, hgate⟩ := List.cons_sublist_iff.mp horder
  obtain ⟨ids₁, ids₂, rfl⟩ := List.append_of_mem (List.singleton_sublist.mp hgate)
  have hnot : StageId.materialize ∉ ids₂ := fun hmem' => by
    have hdistinct := h.runnable.distinct
    rw [hids, List.nodup_append] at hdistinct
    exact hdistinct.2.2 _ hmem _ (by simp [hmem']) rfl
  rw [← List.append_assoc] at hids
  obtain ⟨before, after, hpreparing, -, hquiet⟩ := h.exists_gate hids
  have hcheck : Conformance.check s.schemas (p.prepared now r l).workspace.buffer = .ok () := by
    have hstages := p.stages_preparing_of_ok now r l hok
    rw [hpreparing] at hstages
    rw [Pipeline.prepared, hpreparing]
    exact Run.check_of_stages now (hquiet hnot) hstages
  obtain ⟨schema, c, hschema, hcontext, hconforms⟩ :=
    (Conformance.check_eq_ok_iff (h.valid_prepared now r l) (by rw [hrequest]; exact hslice)).mp
      hcheck
  rw [hrequest] at hschema hcontext
  obtain ⟨share, hshared⟩ := h.shared_of_committed (h.nodup_of_reaches hl) hok
  refine ⟨schema, c, share, hschema, hcontext, ?_, hshared.stored, fun t => ?_⟩
  · rw [p.stores_process, hshared.received, hrequest]
  · refine (hconforms t).of_whole fun subject => ?_
    unfold ofSubject
    rw [List.filter_comm, List.filter_comm _ _ (p.prepared now r l).workspace.buffer.contents]
    rcases hshared.whole subject with ⟨hnone, -⟩ | ⟨hall, -⟩
    · exact Or.inl (by rw [← ofSubject, hnone, List.filter_nil])
    · exact Or.inr (by rw [← ofSubject, hall, ofSubject])

/-- A person comes, and a name goes: the insertion is of a class that asks for nothing more, and the
slice declares what is deleted. -/
theorem committed_conforms_of_person :
    let schema : Schema := ⟨"people", true, [⟨"urn:Person", false,
      [⟨"urn:name", none, some 1, none, none, none, none⟩]⟩]⟩
    let config := { Config.standard with
      stages := [.materialize, .conformance, .storage "default"] }
    let s := { Setup.ofConfig config fun _ => .error (.query "") with
      schemas := [(("pod", "people"), schema)] }
    let r := (((Request.new "01ARZ3NDEKTSV4RRFFQ69G5FAV" "pod").withSlice "people").withInsert
      (.object [("@id", .string "urn:1"), ("@type", .string "urn:Person")])).withDelete
        (.object [("@id", .string "urn:1"), ("urn:name", .string "Ada")])
    ∃ p, s.build = .ok p ∧ (p.report ⟨0, 0⟩ r s.ledger).status = .committed ∧
      (p.report ⟨0, 0⟩ r s.ledger).statistics = ⟨1, 1⟩ ∧
      ∃ c share, JsonLd.Context.parse r.context = .ok c ∧
        (p.process ⟨0, 0⟩ r s.ledger).2.stores =
          s.ledger.stores.map (fun store => store.receiving "pod" (share store.id)) ∧
        ∀ t, Conformance.Conforms schema c t
          ((handedOut s.ledger.stores share).filter fun x => x.changeType = t) := by
  intro schema config s r
  let p : Pipeline := ⟨[.process "materialize" (Materialize.stage (fun _ => .error (.query ""))
    s.loaders s.limits), s.gate, .store "default"], "default", false⟩
  have hb : s.build = .ok p := rfl
  have hc : (p.report ⟨0, 0⟩ r s.ledger).status = .committed := by decide +kernel
  obtain ⟨schema', c, share, hschema, hcontext, hstores, -, hconforms⟩ :=
    committed_conforms hb (by decide) .first ⟨0, 0⟩ rfl hc
  cases hschema
  exact ⟨p, hb, hc, by decide +kernel, c, share, hcontext, hstores, hconforms⟩

/-! ### Before materializing -/

/-- **A gate that comes first asks nothing of the records.** If nothing is materialized before it,
it checks an empty buffer: a request for a slice passes if the slice has a schema and the context of
the request can be read. -/
theorem Setup.Builds.gate_before_materialize {s : Setup} {p : Pipeline} (h : s.Builds p)
    {ids ids' : List StageId} (hids : s.config.resolvedStages = ids ++ .conformance :: ids')
    (hnot : .materialize ∉ ids) (now : Instant) {r : Request} {sliceId : String}
    (hslice : r.sliceId = some sliceId) (l : Ledger) :
    ∃ before after, p.preparing = before ++ s.gate :: after ∧
      ((Run.stages now (before ++ [s.gate]) (p.start now r l)).1 = .ok () ↔
        (Run.stages now before (p.start now r l)).1 = .ok () ∧ ∃ schema c,
          s.schemas.lookup (r.podId, sliceId) = some schema ∧
            JsonLd.Context.parse r.context = .ok c) := by
  obtain ⟨before, after, hpreparing, hquiet, -⟩ := h.exists_gate hids
  refine ⟨before, after, hpreparing, ?_⟩
  have hbuffer := Run.buffer_stages_of_quiet now (hquiet hnot) (p.start now r l)
  have hcheck : Conformance.check s.schemas (.openAt r now) = .ok () ↔ ∃ schema c,
      s.schemas.lookup (r.podId, sliceId) = some schema ∧
        JsonLd.Context.parse r.context = .ok c := by
    rw [Conformance.check_eq_ok_iff (Buffer.valid_openAt r now) hslice]
    refine exists₂_congr fun schema c => and_congr_right fun _ => ?_
    exact and_iff_left fun t => Or.inl rfl
  rw [← hcheck, Run.stages_append]
  rcases hrun : Run.stages now before (p.start now r l) with ⟨e | u, w⟩
  · exact iff_of_false (by rintro ⟨⟩) (by rintro ⟨⟨⟩, -⟩)
  · rw [hrun] at hbuffer
    have hw : w.workspace.buffer = .openAt r now := hbuffer
    simp only [Run.stages, Run.stage_gate, hw, true_and]
    cases Conformance.check s.schemas (.openAt r now) <;> rfl

/-- A person without a name is stored where each must have one, as the gate comes first. -/
theorem not_conforms_of_early_gate :
    let schema : Schema := ⟨"people", false, [⟨"urn:Person", false,
      [⟨"urn:name", some 1, none, none, none, none, none⟩]⟩]⟩
    let config := { Config.standard with
      stages := [.conformance, .materialize, .storage "default"] }
    let s := { Setup.ofConfig config fun _ => .error (.query "") with
      schemas := [(("pod", "people"), schema)] }
    let r := ((Request.new "01HZY3V4E0000000000000000A" "pod").withSlice "people").withInsert
      (.object [("@id", .string "urn:1"), ("@type", .string "urn:Person")])
    let x : Record := ⟨r.id, ⟨0, 0⟩, .insert,
      ⟨"urn:1", Vocabulary.rdfType, .iri "urn:Person", "", none, none⟩⟩
    ∃ p, s.build = .ok p ∧ (p.report ⟨0, 0⟩ r s.ledger).status = .committed ∧
      (p.process ⟨0, 0⟩ r s.ledger).2.stores = [.memory ⟨"default", .all, [("pod", [x])]⟩] ∧
      JsonLd.Context.parse r.context = .ok .empty ∧
      ¬ Conformance.Conforms schema .empty .insert [x] := by
  intro schema config s r x
  let p : Pipeline := ⟨[s.gate, .process "materialize" (Materialize.stage
    (fun _ => .error (.query "")) s.loaders s.limits), .store "default"], "default", false⟩
  have hb : s.build = .ok p := rfl
  refine ⟨p, hb, by decide +kernel, by decide +kernel, rfl, ?_⟩
  rintro (hnone | ⟨shapes, hshapes, hcheck⟩)
  · cases hnone
  · cases hshapes
    revert hcheck
    decide +kernel

end GraphLedger
