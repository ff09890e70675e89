import GraphLedger.Proofs.Buffer.Valid

/-! # Calls of a buffer

A buffer is called to add or remove records, to read them, to tell a position, or to tell what was
stored. Additions and removals work record by record; a step *takes effect* if it adds a record that
is not held or removes one that is.

* `valid_calls`: whatever is called, in whatever order, a buffer stays valid.
* `Valid.length_held_steps`, `count_statistics_steps`: for each type, as many additions took effect
  as records are held or were removed, and exactly the removals of stored records were counted.
* `Valid.position?_calls`: a position is kept as long as the record is held, and never given
  again. -/

namespace GraphLedger

/-- A call of a buffer. -/
inductive BufferCall where
  | add (rs : List Record)
  | remove (rs : List Record) (stored : Bool)
  | stream (f : RecordFilter)
  | position (r : Record)
  | statistics
  deriving DecidableEq

/-- What is answered to a call. -/
inductive BufferAnswer where
  | count (n : Nat)
  | records (rs : List Record)
  | position (n : Option Nat)
  | statistics (s : Statistics)
  deriving DecidableEq

/-- The addition or removal of one record. -/
inductive BufferStep where
  | add (r : Record)
  | remove (r : Record) (stored : Bool)
  deriving DecidableEq

namespace BufferCall

/-- Makes calls one after the other: the answers, and what was called as it is afterwards. -/
def runAll {σ : Type} (call : σ → BufferCall → BufferAnswer × σ) :
    σ → List BufferCall → List BufferAnswer × σ
  | s, [] => ([], s)
  | s, c :: cs =>
    let (answer, s) := call s c
    let (answers, s) := runAll call s cs
    (answer :: answers, s)

/-- **Simulation.** Two things that answer each call alike, and stay related, answer all calls
alike. -/
theorem runAll_simulates {σ τ : Type} {f : σ → BufferCall → BufferAnswer × σ}
    {g : τ → BufferCall → BufferAnswer × τ} {R : σ → τ → Prop}
    (hstep : ∀ s t c, R s t → (f s c).1 = (g t c).1 ∧ R (f s c).2 (g t c).2)
    (cs : List BufferCall) : ∀ s t, R s t →
      (runAll f s cs).1 = (runAll g t cs).1 ∧ R (runAll f s cs).2 (runAll g t cs).2 := by
  induction cs with
  | nil => exact fun s t h => ⟨rfl, h⟩
  | cons c cs ih =>
    intro s t h
    obtain ⟨ha, hr⟩ := hstep s t c h
    obtain ⟨has, hrs⟩ := ih _ _ hr
    exact ⟨congrArg₂ List.cons ha has, hrs⟩

/-- The steps of a call, one for each record that it adds or removes. -/
def steps : BufferCall → List BufferStep
  | .add rs => rs.map .add
  | .remove rs stored => rs.map fun r => .remove r stored
  | .stream _ | .position _ | .statistics => []

end BufferCall

namespace BufferStep

/-- Whether a step adds a record of a type. -/
def adds (t : ChangeType) : BufferStep → Bool
  | .add r => r.changeType = t
  | .remove _ _ => false

/-- Whether a step removes a record of a type. -/
def removes (t : ChangeType) : BufferStep → Bool
  | .add _ => false
  | .remove r _ => r.changeType = t

/-- Whether a step removes a record of a type that was stored. -/
def stores (t : ChangeType) : BufferStep → Bool
  | .add _ => false
  | .remove r stored => stored && r.changeType = t

end BufferStep

namespace Buffer

/-- Answers a call; the buffer as it is afterwards. -/
def call (b : Buffer) : BufferCall → BufferAnswer × Buffer
  | .add rs => (.count (b.addedCount rs), b.add rs)
  | .remove rs stored => (.count (b.removedCount rs stored), b.remove rs stored)
  | .stream f => (.records (b.collect f), b)
  | .position r => (.position (b.position? r), b)
  | .statistics => (.statistics b.statistics, b)

/-- Answers calls one after the other. -/
def calls (b : Buffer) (cs : List BufferCall) : List BufferAnswer × Buffer :=
  BufferCall.runAll call b cs

/-- The buffer after a step. -/
def step (b : Buffer) : BufferStep → Buffer
  | .add r => b.addOne r
  | .remove r stored => b.removeOne stored r

/-- Whether a step takes effect: what is added is new, what is removed is there. -/
def affected (b : Buffer) : BufferStep → Bool
  | .add r => !b.holds r
  | .remove r _ => b.holds r

/-- The steps that take effect when all are made in turn. -/
def effective : Buffer → List BufferStep → List BufferStep
  | _, [] => []
  | b, s :: ss => (if b.affected s then [s] else []) ++ (b.step s).effective ss

/-! ### Calls as steps -/

theorem call_snd (b : Buffer) (c : BufferCall) : (b.call c).2 = c.steps.foldl step b := by
  cases c with
  | add rs => rw [BufferCall.steps, List.foldl_map]; rfl
  | remove rs stored => rw [BufferCall.steps, List.foldl_map]; rfl
  | stream f => rfl
  | position r => rfl
  | statistics => rfl

theorem calls_snd (b : Buffer) (cs : List BufferCall) :
    (b.calls cs).2 = (cs.flatMap BufferCall.steps).foldl step b := by
  induction cs generalizing b with
  | nil => rfl
  | cons c cs ih =>
    rw [List.flatMap_cons, List.foldl_append, ← call_snd]
    exact ih (b.call c).2

theorem Valid.step {b : Buffer} (hv : b.Valid) (s : BufferStep) : (b.step s).Valid := by
  cases s with
  | add r => exact hv.addOne r
  | remove r stored => exact hv.removeOne stored r

theorem Valid.steps {b : Buffer} (hv : b.Valid) (ss : List BufferStep) :
    (ss.foldl Buffer.step b).Valid := by
  induction ss generalizing b with
  | nil => exact hv
  | cons s ss ih => exact ih (hv.step s)

/-- **Whatever is called**, a buffer stays valid. -/
theorem valid_calls (r : Request) (time : Instant) (cs : List BufferCall) :
    ((openAt r time).calls cs).2.Valid := by
  rw [calls_snd]
  exact (valid_openAt r time).steps _

theorem request_step (b : Buffer) (s : BufferStep) : (b.step s).request = b.request := by
  cases s with
  | add r => exact request_addOne b r
  | remove r stored => exact request_removeOne b stored r

theorem request_calls (b : Buffer) (cs : List BufferCall) : (b.calls cs).2.request = b.request := by
  rw [calls_snd]
  induction cs.flatMap BufferCall.steps generalizing b with
  | nil => rfl
  | cons s ss ih => exact (ih (b.step s)).trans (request_step b s)

/-! ### What is held and what was stored -/

theorem Valid.length_held_removeOne {b : Buffer} (hv : b.Valid) (stored : Bool) (r : Record)
    (t : ChangeType) :
    ((b.removeOne stored r).held t).length + (if b.holds r ∧ r.changeType = t then 1 else 0) =
      (b.held t).length := by
  unfold Held.length
  rw [hv.inOrder_removeOne, ← List.countP_eq_length_filter]
  have hsplit := List.length_eq_countP_add_countP (fun p : Nat × Record => p.2.same r)
    (l := (b.held t).inOrder)
  have hcount : (b.held t).inOrder.countP (fun p => p.2.same r) =
      if b.holds r ∧ r.changeType = t then 1 else 0 := by
    split_ifs with h
    · obtain ⟨h, rfl⟩ := h
      obtain ⟨p, hp, hs⟩ := (hv.held _).has_iff.mp h
      obtain ⟨l₁, l₂, hl⟩ := List.append_of_mem hp
      have hd := (hv.held r.changeType).distinct
      rw [hl, List.pairwise_append, List.pairwise_cons] at hd
      rw [hl, List.countP_append, List.countP_cons_of_pos (by simpa using hs),
        List.countP_eq_zero.mpr, List.countP_eq_zero.mpr]
      · exact fun q hq hqs => hd.2.1.1 q hq (Record.same_trans hs (by rwa [Record.same_comm]))
      · exact fun q hq hqs => hd.2.2 q hq p (by simp)
          (Record.same_trans hqs (by rwa [Record.same_comm]))
    · refine List.countP_eq_zero.mpr fun p hp hs => h ?_
      have ht : r.changeType = t := (Record.same_iff.mp hs).2.1.symm.trans (hv.typed t p hp)
      exact ⟨(hv.held _).has_iff.mpr ⟨p, by rw [ht]; exact hp, hs⟩, ht⟩
  simp only [Bool.not_eq_true, Bool.decide_eq_false] at hsplit
  omega

theorem Valid.length_held_addOne {b : Buffer} (hv : b.Valid) (r : Record) (t : ChangeType) :
    ((b.addOne r).held t).length =
      (b.held t).length + if ¬ b.holds r ∧ r.changeType = t then 1 else 0 := by
  by_cases h : b.holds r
  · rw [addOne_of_holds h]; simp [h]
  · rw [held_addOne h]
    by_cases ht : t = r.changeType
    · subst ht
      rw [if_pos rfl, if_pos ⟨h, rfl⟩, Held.length, Held.inOrder_insert r (hv.below _),
        List.length_append]
      rfl
    · rw [if_neg ht, if_neg fun h => ht h.2.symm]; rfl

theorem countP_affected (b : Buffer) (s : BufferStep) (p : BufferStep → Bool) :
    (if b.affected s then [s] else []).countP p = if b.affected s ∧ p s then 1 else 0 := by
  by_cases h : b.affected s <;> by_cases hp : p s <;> simp [h, hp]

theorem Valid.length_held_step {b : Buffer} (hv : b.Valid) (t : ChangeType) (s : BufferStep) :
    (b.held t).length + (if b.affected s ∧ s.adds t then 1 else 0) =
      ((b.step s).held t).length + if b.affected s ∧ s.removes t then 1 else 0 := by
  cases s with
  | add r =>
    rw [Buffer.step, hv.length_held_addOne]
    simp [affected, BufferStep.adds, BufferStep.removes]
  | remove r stored =>
    rw [Buffer.step, ← hv.length_held_removeOne stored r t]
    simp [affected, BufferStep.adds, BufferStep.removes]

/-- **Nothing is lost.** For each type, as many additions take effect as records are held in the
end beyond those of the beginning, or were removed. -/
theorem Valid.length_held_steps {b : Buffer} (hv : b.Valid) (t : ChangeType)
    (ss : List BufferStep) :
    (b.held t).length + (b.effective ss).countP (BufferStep.adds t) =
      ((ss.foldl Buffer.step b).held t).length +
        (b.effective ss).countP (BufferStep.removes t) := by
  induction ss generalizing b with
  | nil => rfl
  | cons s ss ih =>
    have hs := hv.length_held_step t s
    have ih := ih (hv.step s)
    rw [effective, List.foldl_cons, List.countP_append, List.countP_append, countP_affected,
      countP_affected]
    omega

theorem count_statistics_step (b : Buffer) (t : ChangeType) (s : BufferStep) :
    (b.step s).statistics.count t =
      b.statistics.count t + if b.affected s ∧ s.stores t then 1 else 0 := by
  cases s with
  | add r => simp [step, BufferStep.stores]
  | remove r stored =>
    rw [step, count_statistics_removeOne]
    simp [affected, BufferStep.stores]

/-- **What was stored is counted**, and nothing else. -/
theorem count_statistics_steps (b : Buffer) (t : ChangeType) (ss : List BufferStep) :
    (ss.foldl step b).statistics.count t =
      b.statistics.count t + (b.effective ss).countP (BufferStep.stores t) := by
  induction ss generalizing b with
  | nil => rfl
  | cons s ss ih =>
    rw [effective, List.foldl_cons, List.countP_append, countP_affected, ih,
      count_statistics_step, Nat.add_assoc]

/-! ### Positions -/

theorem Valid.inOrder_step {b : Buffer} (hv : b.Valid) (s : BufferStep) {t : ChangeType}
    {p : Nat × Record} (hp : p ∈ ((b.step s).held t).inOrder) :
    p ∈ (b.held t).inOrder ∨ b.nextPosition ≤ p.1 := by
  cases s with
  | add r =>
    by_cases h : b.holds r
    · rw [Buffer.step, addOne_of_holds h] at hp
      exact Or.inl hp
    · rw [Buffer.step, held_addOne h] at hp
      split_ifs at hp with ht
      · subst ht
        rw [Held.inOrder_insert r (hv.below _), List.mem_append, List.mem_singleton] at hp
        rcases hp with hp | rfl
        · exact Or.inl hp
        · exact Or.inr (Nat.le_refl _)
      · exact Or.inl hp
  | remove r stored =>
    rw [Buffer.step, hv.inOrder_removeOne] at hp
    exact Or.inl (List.mem_filter.mp hp).1

theorem nextPosition_step_le (b : Buffer) (s : BufferStep) :
    b.nextPosition ≤ (b.step s).nextPosition := by
  cases s with
  | add r =>
    by_cases h : b.holds r
    · exact Nat.le_of_eq (by rw [step, addOne_of_holds h])
    · rw [step, nextPosition_addOne h]; omega
  | remove r stored => exact Nat.le_of_eq (by rw [step, nextPosition_removeOne])

theorem Valid.inOrder_steps {b : Buffer} (hv : b.Valid) (ss : List BufferStep) {t : ChangeType}
    {p : Nat × Record} (hp : p ∈ ((ss.foldl Buffer.step b).held t).inOrder) :
    p ∈ (b.held t).inOrder ∨ b.nextPosition ≤ p.1 := by
  induction ss generalizing b with
  | nil => exact Or.inl hp
  | cons s ss ih =>
    have hle := nextPosition_step_le b s
    rcases ih (hv.step s) hp with hp | hp
    · exact hv.inOrder_step s hp
    · right; omega

/-- **A position is never given again.** After any calls, a record is where it was, or at a
position that had not been given. -/
theorem Valid.position?_calls {b : Buffer} (hv : b.Valid) (cs : List BufferCall) {r : Record}
    {n : Nat} (h : (b.calls cs).2.position? r = some n) :
    b.position? r = some n ∨ b.nextPosition ≤ n := by
  rw [calls_snd] at h
  obtain ⟨x, hx, hs⟩ := ((hv.steps _).held _).position?_eq_some_iff.mp h
  rcases hv.inOrder_steps _ hx with hx | hx
  · exact Or.inl ((hv.held _).position?_eq_some_iff.mpr ⟨x, hx, hs⟩)
  · exact Or.inr hx

end Buffer

end GraphLedger
