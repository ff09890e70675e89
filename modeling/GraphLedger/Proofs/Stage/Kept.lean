import GraphLedger.Stage.Assertions
import GraphLedger.Stage.Conformance
import GraphLedger.Stage.Materialize

/-! # What holds of all steps

The steps that prepare a request are put together from a few: computing something, looking at the
request and its buffer, putting a query, drawing on the supply of identifiers, and adding statements
that have been checked. What holds of these, and of steps in a row when it holds of each, holds of
them all. Only materializing adds, so that less is asked for the others.

* `run_bind`: what steps in a row do; `run_addStatements`: what adding does.
* `Reads.assertions`, `Reads.conformance`: what holds of steps that do not add.
* `Kept.materialize`: what holds of steps that add, too. -/

namespace GraphLedger

namespace Step

section Run
variable {α β : Type}

theorem run_bind (s : Step α) (f : α → Step β) (w : Workspace) :
    (s >>= f).run.run w = match s.run.run w with
      | (.ok a, w) => (f a).run.run w
      | (.error e, w) => (.error e, w) := by
  simp only [ExceptT.run_bind, StateT.run_bind]
  rcases s.run.run w with ⟨_ | _, _⟩ <;> rfl

theorem run_ofExcept (x : Except Failure α) (w : Workspace) : (ofExcept x).run.run w = (x, w) := by
  cases x <;> rfl

theorem run_drawing (load : Nat → Except Failure α × Nat) (w : Workspace) :
    (drawing load).run.run w = ((load w.supply).1, { w with supply := (load w.supply).2 }) := by
  show (ofExcept (load w.supply).1).run.run { w with supply := (load w.supply).2 } = _
  rw [run_ofExcept]

theorem run_ask (engine : QueryEngine) (query : String) (w : Workspace) :
    (ask engine query).run.run w = (engine query, { w with asked := w.asked ++ [query] }) :=
  run_ofExcept _ _

theorem run_addStatements (t : ChangeType) (sts : List Statement) (w : Workspace) :
    (Materialize.addStatements t sts).run.run w = match Materialize.checkStatements sts with
      | .ok _ => (.ok (), { w with buffer := w.buffer.add (sts.map (w.buffer.record t)) })
      | .error e => (.error e, w) := by
  unfold Materialize.addStatements
  rw [run_bind, run_ofExcept]
  cases Materialize.checkStatements sts <;> rfl

end Run

/-- A property that the single steps without adding have, and steps in a row if each of them has. -/
structure Reads (P : (α : Type) → Step α → Prop) : Prop where
  pure {α : Type} (a : α) : P α (pure a)
  ofExcept {α : Type} (x : Except Failure α) : P α (ofExcept x)
  bind {α β : Type} {s : Step α} {f : α → Step β} : P α s → (∀ a, P β (f a)) → P β (s >>= f)
  request : P Request request
  buffer : P Buffer buffer
  ask (engine : QueryEngine) (query : String) : P QueryResponse (ask engine query)
  observing {α : Type} {s : Step α} : P α s → P _ (Assertion.check.observing s)
  drawing {α : Type} (load : Nat → Except Failure α × Nat) : P α (drawing load)

/-- A property that the step of adding checked statements has, too. -/
structure Kept (P : (α : Type) → Step α → Prop) : Prop extends Reads P where
  addStatements (t : ChangeType) (sts : List Statement) : P Unit (Materialize.addStatements t sts)

variable {P : (α : Type) → Step α → Prop}

section Reads
variable (h : Reads P)
include h

theorem Reads.naming {α : Type} (t : JsonLd.Naming α) : P α (naming t) := h.drawing _

/-! ### Assertions -/

theorem Reads.check (engine : QueryEngine) (index : Nat) (a : Assertion) :
    P Unit (a.check engine index) := by
  unfold Assertion.check
  split
  · exact h.ofExcept _
  · -- a query that fails is an answer too
    exact h.bind (h.observing (h.ask engine a.query)) fun _ => h.ofExcept _

theorem Reads.checkAll (engine : QueryEngine) (limit fuel : Nat)
    (underWay waiting : Assertion.Indexed) :
    P Unit (Assertion.checkAll engine limit fuel underWay waiting) := by
  induction fuel generalizing underWay waiting with
  | zero => exact h.pure ()
  | succ fuel ih =>
    unfold Assertion.checkAll
    split
    · exact h.bind (h.check engine _ _) fun _ => ih _ _
    · exact h.pure ()

/-- **Checking assertions** only reads. -/
theorem Reads.assertions (engine : QueryEngine) (parallelism : Nat) :
    P Unit (Assertion.stage engine parallelism) :=
  h.bind h.request fun _ => h.checkAll engine _ _ _ _

/-! ### Conformance -/

/-- **Checking conformance** only reads. -/
theorem Reads.conformance (schemas : Conformance.Schemas) : P Unit (Conformance.stage schemas) :=
  h.bind h.buffer fun _ => h.ofExcept _

/-! ### Materializing -/

theorem Reads.bindings (engine : QueryEngine) (r : Request) :
    P _ (Materialize.bindings engine r) := by
  unfold Materialize.bindings
  split
  · exact h.pure none
  · refine h.bind (h.ask engine _) fun _ => ?_
    exact h.bind (h.ofExcept _) fun _ => h.pure _

end Reads

section Kept
variable (h : Kept P)
include h

theorem Kept.addBatches (t : ChangeType) (batches : List StatementStream) :
    P Unit (Materialize.addBatches t batches) := by
  induction batches with
  | nil => exact h.pure ()
  | cons batch rest ih =>
    refine h.bind (h.ofExcept _) fun sts => ?_
    exact h.bind (h.addStatements t sts) fun _ => ih

theorem Kept.addReferences (loaders : List Loader) (limits : Materialize.Limits) (t : ChangeType)
    (rs : List Reference) : P Unit (Materialize.addReferences loaders limits t rs) := by
  induction rs with
  | nil => exact h.pure ()
  | cons r rs ih =>
    refine h.bind ?_ fun _ => ih
    exact h.bind (h.drawing _) fun _ => h.addBatches t _

theorem Kept.addExpanded (engine : QueryEngine) (limits : Materialize.Limits) (r : Request) :
    P Unit (Materialize.addExpanded engine limits r) := by
  refine h.bind (h.bindings engine r) fun answer => ?_
  refine h.bind (h.ofExcept _) fun ⟨deletes, inserts⟩ => ?_
  refine h.bind (h.ofExcept _) fun c => ?_
  refine h.bind (h.naming _) fun ⟨ds, is⟩ => ?_
  exact h.bind (h.addStatements _ ds) fun _ => h.addStatements _ is

theorem Kept.addEntries (engine : QueryEngine) (limits : Materialize.Limits) :
    P Unit (Materialize.addEntries engine limits) := by
  refine h.bind h.request fun r => ?_
  split
  · split
    · exact h.ofExcept (.error Materialize.missingQuery)
    · exact h.addExpanded engine limits r
  · exact h.pure ()

/-- **Materializing** adds what it has checked. -/
theorem Kept.materialize (engine : QueryEngine) (loaders : List Loader)
    (limits : Materialize.Limits) : P Unit (Materialize.stage engine loaders limits) := by
  refine h.bind h.request fun r => ?_
  refine h.bind (h.addReferences loaders limits _ _) fun _ => ?_
  exact h.bind (h.addReferences loaders limits _ _) fun _ => h.addEntries engine limits

end Kept

end Step

theorem Conformance.run_stage (schemas : Schemas) (w : Workspace) :
    (stage schemas).run.run w = (check schemas w.buffer, w) := by
  unfold stage
  rw [Step.run_bind]
  exact Step.run_ofExcept _ _

end GraphLedger
