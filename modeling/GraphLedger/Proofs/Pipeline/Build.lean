import GraphLedger.Pipeline.Build
import GraphLedger.Proofs.Config.Runnable
import GraphLedger.Proofs.Stage.Additive
import GraphLedger.Proofs.Storage.Routing
import Mathlib.Data.List.TakeWhile

/-! # Pipelines that are built

A pipeline is built from a setup whose configuration can be run, and each of its stages is resolved
from the stage that the configuration names. So its stages fall into two parts: the *preparing*
stages, which only add to the buffer, and the *storing* stages behind them, which store in the
configured backends.

* `Runnable.exists_all`: unless partial coverage is allowed, some storage stage claims everything.
* `build_eq_ok_iff`: when a pipeline is built, and which one.
* `Builds.ordered`: no stage that works on the buffer comes after one that stores.
* `Builds.preparing_onlyAdds`, `Builds.storing_eq`: what the two parts consist of. -/

namespace GraphLedger

namespace Pipeline

/-- The stages before the first that stores. -/
def preparing (p : Pipeline) : List Stage := p.stages.takeWhile fun s => !s.isStorage

/-- The stages from the first that stores on. -/
def storing (p : Pipeline) : List Stage := p.stages.dropWhile fun s => !s.isStorage

theorem preparing_append_storing (p : Pipeline) : p.preparing ++ p.storing = p.stages :=
  List.takeWhile_append_dropWhile

theorem isStorage_of_mem_preparing {p : Pipeline} {s : Stage} (h : s ∈ p.preparing) :
    s.isStorage = false := by
  simpa using List.mem_takeWhile_imp h

end Pipeline

/-! ### Routes of a configuration -/

/-- The route of a configured backend. -/
def BackendConfig.route (b : BackendConfig) : Route := (b.id, b.selector)

namespace Config

/-- The identifiers of the backends in which stages store. -/
def storageIds (c : Config) : List String := c.resolvedStages.filterMap StageId.backendId?

/-- The routes of the storage stages. -/
def routes (c : Config) : List Route :=
  c.storageIds.filterMap fun id => (c.backend? id).map BackendConfig.route

theorem mem_storageIds {c : Config} {id : String} :
    id ∈ c.storageIds ↔ .storage id ∈ c.resolvedStages := by
  unfold storageIds
  rw [List.mem_filterMap]
  constructor
  · rintro ⟨stage, hs, hid⟩
    cases stage <;> cases hid
    exact hs
  · exact fun h => ⟨_, h, rfl⟩

theorem route_of_backend? {c : Config} {id : String} {b : BackendConfig}
    (h : c.backend? id = some b) : b ∈ c.backends ∧ b.id = id :=
  ⟨List.mem_of_find?_eq_some h, by simpa using List.find?_some h⟩

theorem routes_subset (c : Config) : c.routes ⊆ c.backends.map BackendConfig.route := by
  intro q hq
  obtain ⟨id, -, hq⟩ := List.mem_filterMap.mp hq
  obtain ⟨b, hb, rfl⟩ := Option.map_eq_some_iff.mp hq
  exact List.mem_map_of_mem (route_of_backend? hb).1

theorem Runnable.map_fst_routes {c : Config} (h : c.Runnable) :
    c.routes.map Prod.fst = c.storageIds := by
  have hall : ∀ ids : List String, (∀ id ∈ ids, (c.backend? id).isSome) →
      (ids.filterMap fun id => (c.backend? id).map BackendConfig.route).map Prod.fst = ids := by
    intro ids hids
    induction ids with
    | nil => rfl
    | cons id ids ih =>
      obtain ⟨b, hb⟩ := Option.isSome_iff_exists.mp (hids id (by simp))
      rw [List.filterMap_cons_some (by rw [hb]; rfl), List.map_cons,
        ih fun x hx => hids x (by simp [hx])]
      exact congrArg (· :: ids) (route_of_backend? hb).2
  exact hall _ fun id hid => h.known id (mem_storageIds.mp hid)

/-- **The last storage stage claims everything**, unless partial coverage is allowed. -/
theorem Runnable.exists_all {c : Config} (h : c.Runnable)
    (hpartial : c.allowPartialCoverage = false) : ∃ q ∈ c.routes, q.2 = .all := by
  obtain ⟨b, hb, hall⟩ := h.covered hpartial
  obtain ⟨id, hid, hb⟩ := Option.bind_eq_some_iff.mp hb
  refine ⟨b.route, List.mem_filterMap.mpr ⟨id, List.mem_of_getLast? hid, by rw [hb]; rfl⟩, ?_⟩
  unfold BackendConfig.claimsAll at hall
  rw [Option.isNone_iff_eq_none] at hall
  rw [BackendConfig.route, BackendConfig.selector, hall]
  rfl

end Config

namespace Setup

/-- What a pipeline has to do with the setup that it is built from. -/
structure Builds (s : Setup) (p : Pipeline) : Prop where
  runnable : s.config.Runnable
  given : ∀ store ∈ s.stores, (s.config.backend? store.id).isSome
  default : s.resolveDefault = .ok p.defaultBackend
  stages : List.Forall₂ (fun id stage => s.resolveStage id = .ok stage) s.config.resolvedStages
    p.stages
  coverage : s.checkCoverage = .ok ()
  recordPreprocessed : p.recordPreprocessed = s.config.recordPreprocessed

theorem checkGiven_eq_ok_iff {s : Setup} :
    s.checkGiven = .ok () ↔ ∀ store ∈ s.stores, (s.config.backend? store.id).isSome := by
  unfold checkGiven
  cases hf : s.stores.find? fun store => (s.config.backend? store.id).isNone with
  | none => simpa [Option.isSome_iff_ne_none] using hf
  | some store =>
    constructor
    · intro h; cases h
    · intro h
      have hnone := List.find?_some hf
      have hsome := h store (List.mem_of_find?_eq_some hf)
      rw [Option.isNone_iff_eq_none] at hnone
      rw [hnone] at hsome
      cases hsome

/-- **A pipeline is built** if and only if its configuration can be run and its parts are there. -/
theorem build_eq_ok_iff {s : Setup} {p : Pipeline} : s.build = .ok p ↔ s.Builds p := by
  unfold build
  rw [check_bind_eq_ok_iff, check_bind_eq_ok_iff, bind_eq_ok_iff, Config.validate_eq_ok_iff,
    checkGiven_eq_ok_iff]
  constructor
  · rintro ⟨h1, h2, d, hd, h⟩
    obtain ⟨stages, hstages, h⟩ := bind_eq_ok_iff.mp h
    obtain ⟨h3, h⟩ := check_bind_eq_ok_iff.mp h
    cases h
    exact ⟨h1, h2, hd, mapM_eq_ok_iff.mp hstages, h3, rfl⟩
  · rintro ⟨h1, h2, hd, hstages, h3, h4⟩
    refine ⟨h1, h2, p.defaultBackend, hd, bind_eq_ok_iff.mpr ⟨p.stages, ?_, ?_⟩⟩
    · exact mapM_eq_ok_iff.mpr hstages
    · rw [check_bind_eq_ok_iff, ← h4]
      exact ⟨h3, rfl⟩

/-! ### Resolved stages -/

theorem backendId?_eq_none {id : StageId} (h : id.isStorage = false) : id.backendId? = none := by
  cases id with
  | storage b => cases h
  | _ => rfl

section Resolve
variable {s : Setup} {id : StageId} {stage : Stage}

/-- **A resolved stage** stores in the store of its identifier, or it is a step of which holds what
holds of all steps. -/
theorem resolveStage_cases {P : (α : Type) → Step α → Prop} (hP : Step.Kept P)
    (h : s.resolveStage id = .ok stage) :
    (∃ b, id = .storage b ∧ stage = .store b) ∨
      id.isStorage = false ∧ ∃ step, stage = .process id.name step ∧ P Unit step := by
  have hengine : ∀ {f : QueryEngine → Stage}, s.requireEngine.map f = .ok stage →
      ∃ engine, f engine = stage := fun {f} h => by
    cases he : s.requireEngine with
    | error e => rw [he] at h; cases h
    | ok engine => rw [he] at h; cases h; exact ⟨engine, rfl⟩
  cases id with
  | assertions =>
    obtain ⟨engine, rfl⟩ := hengine h
    exact Or.inr ⟨rfl, _, rfl, hP.assertions _ _⟩
  | materialize =>
    obtain ⟨engine, rfl⟩ := hengine h
    exact Or.inr ⟨rfl, _, rfl, hP.materialize _ _ _⟩
  | conformance =>
    cases h
    exact Or.inr ⟨rfl, _, rfl, hP.conformance _⟩
  | storage b =>
    simp only [resolveStage] at h
    cases hstore : s.allStores.find? fun store => store.id == b with
    | none => rw [hstore] at h; cases h
    | some store =>
      rw [hstore] at h
      cases h
      have hid : store.id = b := by simpa using List.find?_some hstore
      exact Or.inl ⟨b, rfl, by rw [hid]⟩

theorem isStorage_resolveStage (h : s.resolveStage id = .ok stage) :
    stage.isStorage = id.isStorage := by
  rcases resolveStage_cases Step.kept_onlyAdds h with ⟨b, rfl, rfl⟩ | ⟨hid, step, rfl, -⟩
  · rfl
  · exact hid.symm

end Resolve

theorem dropWhile_eq_filter {α : Type} {q : α → Bool} {l : List α}
    (h : l.Pairwise fun a b => q a → q b) : (l.dropWhile fun a => !q a) = l.filter q := by
  induction l with
  | nil => rfl
  | cons a l ih =>
    obtain ⟨ha, hl⟩ := List.pairwise_cons.mp h
    cases hq : q a with
    | false =>
      rw [List.dropWhile_cons_of_pos (by simp [hq]), List.filter_cons_of_neg (by simp [hq]), ih hl]
    | true =>
      rw [List.dropWhile_cons_of_neg (by simp [hq]), List.filter_cons_of_pos hq,
        List.filter_eq_self.mpr fun b hb => ha b hb hq]

namespace Builds
variable {s : Setup} {p : Pipeline} (h : s.Builds p)
include h

/-- **Nothing works on the buffer once something is stored.** -/
theorem ordered : p.stages.Pairwise fun s t => s.isStorage → t.isStorage := by
  have hmap : s.config.resolvedStages.map StageId.isStorage = p.stages.map Stage.isStorage := by
    rw [← List.forall₂_eq_eq_eq, List.forall₂_map_left_iff, List.forall₂_map_right_iff]
    exact h.stages.imp fun _ _ hr => (isStorage_resolveStage hr).symm
  have hordered : (s.config.resolvedStages.map StageId.isStorage).Pairwise
      fun x y : Bool => x → y :=
    List.pairwise_map.mpr h.runnable.ordered
  rw [hmap] at hordered
  exact List.pairwise_map.mp hordered

theorem resolved : ∀ stage ∈ p.stages, ∃ id ∈ s.config.resolvedStages,
    s.resolveStage id = .ok stage := exists_of_mem_forall₂ h.stages

/-- **The preparing stages only add** to the buffer. -/
theorem preparing_onlyAdds {stage : Stage} (hs : stage ∈ p.preparing) :
    ∃ name step, stage = .process name step ∧ step.OnlyAdds := by
  obtain ⟨id, -, hr⟩ := h.resolved stage ((List.takeWhile_prefix _).subset hs)
  rcases resolveStage_cases Step.kept_onlyAdds hr with ⟨b, -, rfl⟩ | ⟨-, step, hstep, hadds⟩
  · cases Pipeline.isStorage_of_mem_preparing hs
  · exact ⟨_, step, hstep, hadds⟩

/-- **The storing stages** are those of the routes. -/
theorem storing_eq : p.storing = s.config.routes.map fun q => .store q.1 := by
  have hfilter : ∀ {ids : List StageId} {stages : List Stage},
      List.Forall₂ (fun id stage => s.resolveStage id = .ok stage) ids stages →
      stages.filter Stage.isStorage = (ids.filterMap StageId.backendId?).map .store := by
    intro ids stages hall
    induction hall with
    | nil => rfl
    | cons hr _ ih =>
      rcases resolveStage_cases Step.kept_onlyAdds hr with ⟨b, rfl, rfl⟩ | ⟨hid, step, rfl, -⟩
      · exact congrArg (Stage.store b :: ·) ih
      · rw [List.filterMap_cons_none (backendId?_eq_none hid)]
        exact ih
  rw [Pipeline.storing, dropWhile_eq_filter h.ordered, hfilter h.stages, ← Config.storageIds,
    ← h.runnable.map_fst_routes, List.map_map]
  rfl

end Builds

end Setup

end GraphLedger
