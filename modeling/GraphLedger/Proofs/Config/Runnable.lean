import GraphLedger.Config.Basic
import Mathlib.Data.List.Forall2
import Mathlib.Data.List.Nodup

/-! # Configurations that can be run

The checks of a configuration are made in turn, and the stages are checked one by one against those
before them. Together they say what is listed in `Config.Runnable`, which does not speak of an order
of checks: above all, no stage that works on the buffer comes after one that stores.

* `bind_eq_ok_iff`, `mapM_eq_ok_iff`: what comes of steps in a row comes of each of them.
* `checkStages_eq_ok_iff`: what the checks of stages say, by induction on the stages.
* `validate_eq_ok_iff`: a configuration is accepted if and only if it can be run. -/

namespace GraphLedger

/-! ### Outcomes of steps in a row -/

section Outcomes
variable {ε α β : Type}

theorem bind_eq_ok_iff {x : Except ε α} {f : α → Except ε β} {b : β} :
    x >>= f = .ok b ↔ ∃ a, x = .ok a ∧ f a = .ok b := by
  cases x with
  | error e =>
    constructor
    · intro h; cases h
    · rintro ⟨a, h, -⟩; cases h
  | ok a =>
    constructor
    · exact fun h => ⟨a, rfl, h⟩
    · rintro ⟨a', ha, h⟩; cases ha; exact h

theorem bind_eq_error_iff {x : Except ε α} {f : α → Except ε β} {e : ε} :
    x >>= f = .error e ↔ x = .error e ∨ ∃ a, x = .ok a ∧ f a = .error e := by
  cases x with
  | error e' =>
    constructor
    · intro h; cases h; exact Or.inl rfl
    · rintro (h | ⟨a, h, -⟩)
      · cases h; rfl
      · cases h
  | ok a =>
    constructor
    · intro h; exact Or.inr ⟨a, rfl, h⟩
    · rintro (h | ⟨a', h, h'⟩)
      · cases h
      · cases h; exact h'

theorem check_bind_eq_ok_iff {x : Except ε Unit} {f : Unit → Except ε β} {b : β} :
    x >>= f = .ok b ↔ x = .ok () ∧ f () = .ok b := by
  rw [bind_eq_ok_iff]
  exact ⟨fun ⟨_, h⟩ => h, fun h => ⟨(), h⟩⟩

theorem mapM_congr {m : Type → Type} [Monad m] [LawfulMonad m] {f g : α → m β} {l : List α}
    (h : ∀ a ∈ l, f a = g a) : l.mapM f = l.mapM g := by
  induction l with
  | nil => rfl
  | cons a l ih =>
    obtain ⟨ha, hl⟩ := List.forall_mem_cons.mp h
    rw [List.mapM_cons, List.mapM_cons, ha, ih hl]

theorem mapM_eq_ok_iff {f : α → Except ε β} {l : List α} {l' : List β} :
    l.mapM f = .ok l' ↔ List.Forall₂ (fun a b => f a = .ok b) l l' := by
  induction l generalizing l' with
  | nil =>
    rw [List.mapM_nil, List.forall₂_nil_left_iff]
    exact ⟨fun h => by cases h; rfl, fun h => by rw [h]; rfl⟩
  | cons a l ih =>
    rw [List.mapM_cons, bind_eq_ok_iff, List.forall₂_cons_left_iff]
    constructor
    · rintro ⟨b, hb, h⟩
      obtain ⟨bs, hbs, h⟩ := bind_eq_ok_iff.mp h
      cases h
      exact ⟨b, bs, hb, ih.mp hbs, rfl⟩
    · rintro ⟨b, bs, hb, hbs, rfl⟩
      exact ⟨b, hb, bind_eq_ok_iff.mpr ⟨bs, ih.mpr hbs, rfl⟩⟩

theorem mapM_eq_ok_map {f : α → Except ε β} {g : α → β} {l : List α}
    (h : ∀ a ∈ l, f a = .ok (g a)) : l.mapM f = .ok (l.map g) := by
  rw [mapM_eq_ok_iff, List.forall₂_map_right_iff, List.forall₂_same]
  exact h

theorem exists_of_mapM_eq_error {f : α → Except ε β} {l : List α} {e : ε}
    (h : l.mapM f = .error e) : ∃ a ∈ l, f a = .error e := by
  induction l with
  | nil => cases h
  | cons a l ih =>
    rw [List.mapM_cons] at h
    rcases bind_eq_error_iff.mp h with ha | ⟨b, -, h⟩
    · exact ⟨a, List.mem_cons_self, ha⟩
    · rcases bind_eq_error_iff.mp h with hl | ⟨bs, -, h⟩
      · obtain ⟨a', ha', he⟩ := ih hl
        exact ⟨a', List.mem_cons_of_mem a ha', he⟩
      · cases h

variable {R : α → β → Prop} {l' : List β}

theorem exists_append_of_forall₂ {l₁ l₂ : List α} (h : List.Forall₂ R (l₁ ++ l₂) l') :
    ∃ l₁' l₂', l' = l₁' ++ l₂' ∧ List.Forall₂ R l₁ l₁' ∧ List.Forall₂ R l₂ l₂' := by
  have htake := List.forall₂_take l₁.length h
  have hdrop := List.forall₂_drop l₁.length h
  rw [List.take_left] at htake
  rw [List.drop_left] at hdrop
  exact ⟨_, _, (List.take_append_drop l₁.length l').symm, htake, hdrop⟩

theorem exists_of_mem_forall₂ {l : List α} (h : List.Forall₂ R l l') :
    ∀ b ∈ l', ∃ a ∈ l, R a b := by
  induction h with
  | nil => simp
  | cons hr _ ih =>
    rw [List.forall_mem_cons]
    refine ⟨⟨_, by simp, hr⟩, fun b hb => ?_⟩
    obtain ⟨a, ha, hab⟩ := ih b hb
    exact ⟨a, List.mem_cons_of_mem _ ha, hab⟩

end Outcomes

namespace Config

/-- What it takes for a configuration to be run. -/
structure Runnable (c : Config) : Prop where
  counted : ∀ p ∈ c.counts, p.2 ≠ 0
  named : ∀ b ∈ c.backends, ¬ b.id.isEmpty
  backendIds : (c.backends.map BackendConfig.id).Nodup
  default : ∃ id, c.defaultBackendId = .ok id
  distinct : c.resolvedStages.Nodup
  known : ∀ id, .storage id ∈ c.resolvedStages → (c.backend? id).isSome
  ordered : c.resolvedStages.Pairwise fun s t => s.isStorage → t.isStorage
  covered : c.allowPartialCoverage = false →
    ∃ b, (lastStorage? c.resolvedStages).bind c.backend? = some b ∧ b.claimsAll

/-! ### The checks one by one -/

theorem checkCounts_eq_ok_iff {counts : List (String × Nat)} :
    checkCounts counts = .ok () ↔ ∀ p ∈ counts, p.2 ≠ 0 := by
  induction counts with
  | nil => simp [checkCounts]
  | cons p rest ih =>
    obtain ⟨name, n⟩ := p
    rw [checkCounts, List.forall_mem_cons, ← ih]
    by_cases hn : n = 0
    · simp [hn]
    · simp [hn]

theorem checkBackends_eq_ok_iff {seen : List String} {backends : List BackendConfig} :
    checkBackends seen backends = .ok () ↔ (∀ b ∈ backends, ¬ b.id.isEmpty) ∧
      (backends.map BackendConfig.id).Nodup ∧ ∀ b ∈ backends, b.id ∉ seen := by
  induction backends generalizing seen with
  | nil => simp [checkBackends]
  | cons b rest ih =>
    rw [checkBackends]
    split_ifs with hempty hseen
    · simp only [false_iff]
      exact fun h => h.1 b (by simp) hempty
    · have hmem : b.id ∈ seen := by simpa using hseen
      simp only [false_iff]
      exact fun h => h.2.2 b (by simp) hmem
    · have hmem : b.id ∉ seen := by simpa using hseen
      rw [ih, List.forall_mem_cons, List.forall_mem_cons, List.map_cons, List.nodup_cons]
      simp only [List.mem_cons, not_or, List.mem_map, not_exists, not_and]
      constructor
      · rintro ⟨h1, h2, h3⟩
        exact ⟨⟨hempty, h1⟩, ⟨fun x hx => (h3 x hx).1, h2⟩, hmem, fun x hx => (h3 x hx).2⟩
      · rintro ⟨⟨-, h1⟩, ⟨h2, h3⟩, -, h4⟩
        exact ⟨h1, h3, fun x hx => ⟨h2 x hx, h4 x hx⟩⟩

theorem checkStage_eq_ok_iff {c : Config} {before : List StageId} {s : StageId} :
    c.checkStage before s = .ok () ↔ s ∉ before ∧
      (∀ id, s = .storage id → (c.backend? id).isSome) ∧
        ∀ t ∈ before, t.isStorage → s.isStorage := by
  unfold checkStage
  by_cases hmem : s ∈ before
  · simp [hmem]
  · rw [if_neg (by simpa using hmem)]
    cases s with
    | storage id => cases hb : c.backend? id <;> simp [hmem, hb]
    | _ => simp [hmem]

theorem checkStages_eq_ok_iff {c : Config} {before stages : List StageId} :
    c.checkStages before stages = .ok () ↔ stages.Nodup ∧ (∀ s ∈ stages, s ∉ before) ∧
      (∀ id, .storage id ∈ stages → (c.backend? id).isSome) ∧
        stages.Pairwise (fun s t => s.isStorage → t.isStorage) ∧
          ∀ t ∈ before, ∀ s ∈ stages, t.isStorage → s.isStorage := by
  induction stages generalizing before with
  | nil => simp [checkStages]
  | cons s rest ih =>
    rw [checkStages, check_bind_eq_ok_iff, checkStage_eq_ok_iff, ih]
    rw [List.nodup_cons, List.forall_mem_cons, List.pairwise_cons]
    simp only [List.mem_append, List.mem_cons, List.not_mem_nil, or_false, not_or]
    constructor
    · rintro ⟨⟨h1, h2, h3⟩, h4, h5, h6, h7, h8⟩
      refine ⟨⟨fun h => (h5 s h).2 rfl, h4⟩, ⟨h1, fun t ht => (h5 t ht).1⟩, ?_,
        ⟨fun t ht => h8 s (Or.inr rfl) t ht, h7⟩, ?_⟩
      · rintro id (h | h)
        · exact h2 id h.symm
        · exact h6 id h
      · rintro t ht u (rfl | hu)
        · exact h3 t ht
        · exact h8 t (Or.inl ht) u hu
    · rintro ⟨⟨h1, h2⟩, ⟨h3, h4⟩, h5, ⟨h6, h7⟩, h8⟩
      refine ⟨⟨h3, fun id h => h5 id (Or.inl h.symm), fun t ht => h8 t ht s (Or.inl rfl)⟩, h2,
        fun t ht => ⟨h4 t ht, fun he => h1 (he ▸ ht)⟩, fun id h => h5 id (Or.inr h), h7, ?_⟩
      rintro t (ht | rfl) u hu
      · exact h8 t ht u (Or.inr hu)
      · exact h6 u hu

theorem checkCoverage_eq_ok_iff {c : Config} :
    c.checkCoverage = .ok () ↔ (c.allowPartialCoverage = false →
      ∃ b, (lastStorage? c.resolvedStages).bind c.backend? = some b ∧ b.claimsAll) := by
  unfold checkCoverage
  cases c.allowPartialCoverage with
  | true => simp
  | false =>
    cases hb : (lastStorage? c.resolvedStages).bind c.backend? with
    | none => simp
    | some b => by_cases hc : b.claimsAll <;> simp [hc]

/-- **A configuration is accepted** if and only if it can be run. -/
theorem validate_eq_ok_iff {c : Config} : c.validate = .ok () ↔ c.Runnable := by
  have hdefault : (discard c.defaultBackendId : Except ConfigFault Unit) = .ok () ↔
      ∃ id, c.defaultBackendId = .ok id := by
    cases c.defaultBackendId with
    | error e =>
      constructor
      · intro h; cases h
      · rintro ⟨id, h⟩; cases h
    | ok id => exact ⟨fun _ => ⟨id, rfl⟩, fun _ => rfl⟩
  unfold validate
  rw [check_bind_eq_ok_iff, check_bind_eq_ok_iff, check_bind_eq_ok_iff, check_bind_eq_ok_iff,
    checkCounts_eq_ok_iff, checkBackends_eq_ok_iff, hdefault, checkStages_eq_ok_iff,
    checkCoverage_eq_ok_iff]
  constructor
  · rintro ⟨h1, ⟨h2, h3, -⟩, h4, ⟨h5, -, h6, h7, -⟩, h8⟩
    exact ⟨h1, h2, h3, h4, h5, h6, h7, h8⟩
  · rintro ⟨h1, h2, h3, h4, h5, h6, h7, h8⟩
    exact ⟨h1, ⟨h2, h3, by simp⟩, h4, ⟨h5, by simp, h6, h7, by simp⟩, h8⟩

end Config

end GraphLedger
