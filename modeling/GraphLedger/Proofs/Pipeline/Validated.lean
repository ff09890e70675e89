import GraphLedger.Proofs.Pipeline.Commit
import GraphLedger.Proofs.Pipeline.History

/-! # Building what was validated

What building checks after a configuration was validated, it checks on the stores and not on the
backends that the configuration describes. If no stores are given, there is one store for each
backend, with its identifier and its selector, so that looking a store up is looking its backend up,
and every later check passes once the earlier ones did. So with an engine at hand a pipeline is built
exactly from the configurations that are accepted, and the fault is that of the validation if not.

* `find?_allStores`: the store of an identifier is that of its backend.
* `resolveStage_eq`, `resolveDefault_eq`, `checkCoverage_eq`: the later checks pass.
* `builds_of_runnable`: the pipeline of a configuration that can be run.
* `Ledger.Binds`: a backend that storage stages are bound to; `Builds.exists_binds`.
* `build_iff_valid`: when a pipeline is built, and what it is then. -/

namespace GraphLedger

/-! ### Identifiers -/

theorem filter_key_eq_singleton {α : Type} {key : α → String} {l : List α}
    (hn : (l.map key).Nodup) {a : α} (ha : a ∈ l) : l.filter (fun x => key x == key a) = [a] := by
  obtain ⟨before, after, rfl⟩ := List.append_of_mem ha
  rw [List.map_append, List.map_cons, List.nodup_append, List.nodup_cons] at hn
  obtain ⟨-, ⟨hafter, -⟩, hbefore⟩ := hn
  have hleft : before.filter (fun x => key x == key a) = [] := by
    refine List.filter_eq_nil_iff.mpr fun x hx h => ?_
    exact hbefore (key x) (List.mem_map_of_mem hx) (key a) List.mem_cons_self (beq_iff_eq.mp h)
  have hright : after.filter (fun x => key x == key a) = [] := by
    refine List.filter_eq_nil_iff.mpr fun x hx h => hafter ?_
    exact beq_iff_eq.mp h ▸ List.mem_map_of_mem hx
  rw [List.filter_append, hleft, List.filter_cons, hright, if_pos (beq_self_eq_true _)]
  rfl

/-- **The backend that is read from** is the one that is said, or else the first, and it is one of
the configured. -/
theorem Config.defaultBackendId_eq_ok_iff {c : Config} {id : String} :
    c.defaultBackendId = .ok id ↔
      c.defaultBackend.or (c.backends.head?.map BackendConfig.id) = some id ∧
        (c.backend? id).isSome := by
  cases hsaid : c.defaultBackend with
  | some said =>
    cases hb : c.backend? said with
    | none =>
      simp only [defaultBackendId, hsaid, hb, Option.some_or, Option.some.injEq, reduceCtorEq,
        false_iff]
      rintro ⟨rfl, hsome⟩
      rw [hb] at hsome
      cases hsome
    | some b =>
      have hid := (route_of_backend? hb).2
      simp only [defaultBackendId, hsaid, hb, hid, Option.some_or, Option.some.injEq,
        Except.ok.injEq]
      constructor
      · rintro rfl
        exact ⟨rfl, hb ▸ rfl⟩
      · exact And.left
  | none =>
    cases hbackends : c.backends with
    | nil => simp [defaultBackendId, hsaid, hbackends]
    | cons b rest =>
      -- the first backend is the one of its identifier
      have hb : c.backend? b.id = some b := by simp [backend?, hbackends]
      simp only [defaultBackendId, hsaid, hbackends, List.head?_cons, Option.map_some,
        Option.none_or, Option.some.injEq, Except.ok.injEq]
      constructor
      · rintro rfl
        exact ⟨rfl, hb ▸ rfl⟩
      · exact And.left

namespace Setup
variable {s : Setup}

/-- The stage that is meant by a stage of the configuration. -/
def stageOf (s : Setup) (engine : QueryEngine) : StageId → Stage
  | .assertions => .process "assertions" (Assertion.stage engine s.config.assertionParallelism)
  | .materialize => .process "materialize" (Materialize.stage engine s.loaders s.limits)
  | .conformance => .process "conformance" (Conformance.stage s.schemas)
  | .storage id => .store id

/-! ### Later checks -/

section Later
variable (hs : s.stores = [])
include hs

/-- **The store of an identifier** is that of its backend, if no stores are given. -/
theorem find?_allStores (id : String) : (s.allStores.find? fun store => store.id == id) =
    (s.config.backend? id).map fun b => .memory (.new b.id b.selector) := by
  have hstores : s.allStores =
      s.config.backends.map fun b => .memory (.new b.id b.selector) :=
    (keeps_ledger hs).stores.trans (List.map_map ..)
  rw [hstores, List.find?_map]
  rfl

/-- **Every stage is resolved** to what is meant by it. -/
theorem resolveStage_eq (h : s.config.Runnable) {engine : QueryEngine}
    (he : s.engine = some engine) {stage : StageId} (hstage : stage ∈ s.config.resolvedStages) :
    s.resolveStage stage = .ok (s.stageOf engine stage) := by
  have hengine : s.requireEngine = .ok engine := by rw [requireEngine, he]
  cases stage with
  | assertions => rw [resolveStage, hengine]; rfl
  | materialize => rw [resolveStage, hengine]; rfl
  | conformance => rfl
  | storage id =>
    obtain ⟨b, hb⟩ := Option.isSome_iff_exists.mp (h.known id hstage)
    have hid := (Config.route_of_backend? hb).2
    simp only [resolveStage, find?_allStores hs, hb, Option.map_some]
    exact congrArg (fun id => Except.ok (Stage.store id)) hid

theorem resolveDefault_eq {id : String} (hid : s.config.defaultBackendId = .ok id) :
    s.resolveDefault = .ok id := by
  obtain ⟨-, hsome⟩ := Config.defaultBackendId_eq_ok_iff.mp hid
  obtain ⟨b, hb⟩ := Option.isSome_iff_exists.mp hsome
  refine bind_eq_ok_iff.mpr ⟨id, hid, ?_⟩
  rw [find?_allStores hs, hb]
  exact congrArg Except.ok (Config.route_of_backend? hb).2

theorem checkCoverage_eq (h : s.config.Runnable) : s.checkCoverage = .ok () := by
  unfold checkCoverage
  cases hpartial : s.config.allowPartialCoverage with
  | true => rfl
  | false =>
    obtain ⟨b, hb, hall⟩ := h.covered hpartial
    obtain ⟨id, hid, hb⟩ := Option.bind_eq_some_iff.mp hb
    have hlast : s.lastStore? = some (.memory (.new b.id b.selector)) := by
      unfold lastStore?
      rw [hid, Option.bind_eq_bind, Option.bind_some, find?_allStores hs, hb]
      rfl
    have hselector : b.selector = .all := by
      rw [BackendConfig.selector, Option.isNone_iff_eq_none.mp hall]
      rfl
    rw [hlast, hselector]
    rfl

/-- **The pipeline of a configuration that can be run.** -/
theorem builds_of_runnable (h : s.config.Runnable) {engine : QueryEngine}
    (he : s.engine = some engine) {id : String} (hid : s.config.defaultBackendId = .ok id) :
    s.Builds ⟨s.config.resolvedStages.map (s.stageOf engine), id, s.config.recordPreprocessed⟩ where
  runnable := h
  given store hstore := by
    rw [hs] at hstore
    cases hstore
  default := resolveDefault_eq hs hid
  stages := mapM_eq_ok_iff.mp (mapM_eq_ok_map fun _ hstage => resolveStage_eq hs h he hstage)
  coverage := checkCoverage_eq hs h
  recordPreprocessed := rfl

/-- **Every accepted configuration is built.** -/
theorem exists_build_eq_ok {engine : QueryEngine} (he : s.engine = some engine)
    (hv : s.config.validate = .ok ()) : ∃ p, s.build = .ok p := by
  have h := Config.validate_eq_ok_iff.mp hv
  obtain ⟨id, hid⟩ := h.default
  exact ⟨_, build_eq_ok_iff.mpr (builds_of_runnable hs h he hid)⟩

end Later

theorem build_eq_error_of_validate {e : ConfigFault} (hv : s.config.validate = .error e) :
    s.build = .error e := by
  unfold build
  rw [hv]
  rfl

end Setup

/-! ### Backends that stages are bound to -/

/-- **A backend is bound** in a ledger: the one store of its identifier is in memory and claims what
the configuration says, and who stores under the identifier commits to this store and leaves the
others as they are. -/
structure Ledger.Binds (l : Ledger) (b : BackendConfig) (m : Backend) : Prop where
  only : l.stores.filter (fun store => store.id == b.id) = [.memory m]
  selector : m.selector = b.selector
  commits : ∀ buffer, RecordStore.commitIn b.id l.stores buffer =
    .ok (l.stores.map fun store => if store.id = b.id then .memory (m.commit buffer).1 else store,
      (m.commit buffer).2)

namespace Setup.Builds
variable {s : Setup} {p : Pipeline} (h : s.Builds p)
include h

/-- **Every configured backend is bound**, whatever has been processed. -/
theorem exists_binds (hs : s.stores = []) {l : Ledger} (hl : p.Reaches s.ledger l)
    {b : BackendConfig} (hb : b ∈ s.config.backends) : ∃ m, l.Binds b m := by
  obtain ⟨backends, hk⟩ := h.keeps_of_reaches hs hl
  have hn := h.nodup_of_keeps hk
  have hroute : b.route ∈ backends.map Backend.route := hk.routes ▸ List.mem_map_of_mem hb
  obtain ⟨m, hm, hmroute⟩ := List.mem_map.mp hroute
  obtain ⟨hid, hselector⟩ := Prod.mk.inj hmroute
  refine ⟨m, ?_, hselector, fun buffer => ?_⟩
  · rw [hk.stores, List.filter_map, ← hid]
    exact congrArg (List.map RecordStore.memory) (filter_key_eq_singleton hn hm)
  · rw [hk.stores, ← hid, RecordStore.commitIn_memory buffer hn hm, List.map_map]
    refine congrArg (fun stores => Except.ok (stores, _)) (List.map_congr_left fun t ht => ?_)
    by_cases hsame : t.id = m.id
    · have htm := Backend.eq_of_id hn ht hm hsame
      subst htm
      exact (congrArg RecordStore.memory (if_pos rfl)).trans (if_pos rfl).symm
    · exact (congrArg RecordStore.memory (if_neg hsame)).trans (if_neg hsame).symm

theorem exists_backend_of_store {id : String} (hid : .store id ∈ p.stages ∨ id = p.defaultBackend)
    (hdefault : s.config.defaultBackendId = .ok p.defaultBackend) :
    ∃ b, s.config.backend? id = some b := by
  rcases hid with hstage | rfl
  · obtain ⟨stage, hstage, hr⟩ := h.resolved _ hstage
    rcases resolveStage_cases Step.kept_onlyAdds hr with ⟨b, rfl, heq⟩ | ⟨-, step, heq, -⟩
    · cases heq
      exact Option.isSome_iff_exists.mp (h.runnable.known id hstage)
    · cases heq
  · exact Option.isSome_iff_exists.mp (Config.defaultBackendId_eq_ok_iff.mp hdefault).2

end Setup.Builds

/-- **Validation is all that building needs.** With an engine, and if no stores are given, a pipeline
is built if and only if its configuration is accepted, and if not, the fault is the one that the
validation finds. The stages of the pipeline are those of the configuration, one after the other and
each once: first those that work on the buffer, then those that store. The default backend is the one
that is said, or else the first. And it and each storage stage has one configured backend of its
identifier, and is bound to it, with the selector that is configured, whatever has been processed. -/
theorem build_iff_valid {s : Setup} (hs : s.stores = []) {engine : QueryEngine}
    (he : s.engine = some engine) :
    ((∃ p, s.build = .ok p) ↔ s.config.validate = .ok ()) ∧
    (∀ e, s.build = .error e ↔ s.config.validate = .error e) ∧
    ∀ p, s.build = .ok p →
      p.stages = s.config.resolvedStages.map (s.stageOf engine) ∧
      s.config.resolvedStages.Nodup ∧ p.stages.Nodup ∧
      (∃ working storing, p.stages = working ++ storing ∧
        (∀ stage ∈ working, stage.isStorage = false) ∧
        ∀ stage ∈ storing, stage.isStorage = true) ∧
      s.config.defaultBackend.or (s.config.backends.head?.map BackendConfig.id) =
        some p.defaultBackend ∧
      ∀ id, (.store id ∈ p.stages ∨ id = p.defaultBackend) →
        ∃ b, s.config.backends.filter (fun b => b.id == id) = [b] ∧
          ∀ l, p.Reaches s.ledger l → ∃ m, l.Binds b m := by
  have hvalid : ∀ p, s.build = .ok p → s.config.validate = .ok () := fun p hp =>
    Config.validate_eq_ok_iff.mpr (Setup.build_eq_ok_iff.mp hp).runnable
  refine ⟨⟨fun ⟨p, hp⟩ => hvalid p hp, Setup.exists_build_eq_ok hs he⟩,
    fun e => ⟨fun hbuild => ?_, Setup.build_eq_error_of_validate⟩, fun p hp => ?_⟩
  · cases hv : s.config.validate with
    | error e' =>
      rw [Setup.build_eq_error_of_validate hv] at hbuild
      cases hbuild
      rfl
    | ok u =>
      obtain ⟨p, hp⟩ := Setup.exists_build_eq_ok hs he hv
      rw [hp] at hbuild
      cases hbuild
  · have h := Setup.build_eq_ok_iff.mp hp
    obtain ⟨id, hid⟩ := h.runnable.default
    -- there is only one pipeline that is built
    obtain rfl : _ = p := Except.ok.inj ((Setup.build_eq_ok_iff.mpr
      (Setup.builds_of_runnable hs h.runnable he hid)).symm.trans hp)
    refine ⟨rfl, h.runnable.distinct, h.nodup_stages, ⟨_, _,
      (Pipeline.preparing_append_storing _).symm,
      fun stage hstage => Pipeline.isStorage_of_mem_preparing hstage,
      fun stage hstage => h.isStorage_of_mem_storing hstage⟩,
      (Config.defaultBackendId_eq_ok_iff.mp hid).1, fun id' hid' => ?_⟩
    obtain ⟨b, hb⟩ := h.exists_backend_of_store hid' hid
    obtain ⟨hmem, rfl⟩ := Config.route_of_backend? hb
    exact ⟨b, filter_key_eq_singleton h.runnable.backendIds hmem,
      fun l hl => h.exists_binds hs hl hmem⟩

/-- Two backends, of which the second in the list stores first. If the storage stages come before the
one that fills the buffer, the fault is that of the validation. -/
theorem build_iff_valid_of_two :
    let rest : BackendConfig := ⟨"rest", .memory, none⟩
    let marked : BackendConfig := ⟨"marked", .memory, some "urn:p"⟩
    let config := { Config.standard with
      stages := [.materialize, .storage "marked", .storage "rest"], backends := [rest, marked] }
    let s := Setup.ofConfig config fun _ => .error (.query "")
    let wrong := { s with config := { config with stages := [.storage "rest", .materialize] } }
    wrong.build = .error (.afterStorage .materialize) ∧
    ∃ p, s.build = .ok p ∧ p.stages.map Stage.name = ["materialize", "marked", "rest"] ∧
      p.defaultBackend = "rest" ∧
      ∃ b, config.backends.filter (fun b => b.id == "marked") = [b] ∧
        ∀ now r, ∃ m, (p.process now r s.ledger).2.Binds b m := by
  intro rest marked config s wrong
  obtain ⟨⟨-, hbuilt⟩, -, hall⟩ := build_iff_valid (s := s) rfl rfl
  obtain ⟨-, hfault, -⟩ := build_iff_valid (s := wrong) rfl rfl
  obtain ⟨p, hp⟩ := hbuilt rfl
  obtain ⟨hstages, -, -, -, hdefault, hbinds⟩ := hall p hp
  have hstored : Stage.store "marked" ∈ p.stages := by
    rw [hstages]
    exact List.mem_cons_of_mem _ List.mem_cons_self
  obtain ⟨b, hb, hreached⟩ := hbinds "marked" (Or.inl hstored)
  refine ⟨(hfault _).mpr rfl, p, hp, ?_, (Option.some.inj hdefault).symm, b, hb,
    fun now r => hreached _ (.process now r .first)⟩
  rw [hstages]
  rfl

end GraphLedger
