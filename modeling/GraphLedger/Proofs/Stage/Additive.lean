import GraphLedger.Proofs.Buffer.Valid
import GraphLedger.Proofs.Stage.Kept

/-! # Steps that only add

Before a request is stored, its steps do one thing to the buffer: they add records, and each record
that they add belongs to the request and makes a valid statement. A step that fails may have added
some by then. Most steps are even *quiet* and leave the buffer alone; only materializing adds. Both
properties are kept when steps follow each other, so that they hold of all steps.

* `Quiet.bind`, `OnlyAdds.bind`: steps in a row are as each of them is.
* `reads_quiet`: checking assertions and conformance is quiet.
* `kept_onlyAdds`: all steps only add. -/

namespace GraphLedger

/-- Whether a record makes a valid statement for the request of a buffer. -/
structure Buffer.Mints (b : Buffer) (r : Record) : Prop where
  request : r.changeRequestId = b.request.id
  time : r.requestTimestamp = b.requestTimestamp
  statement : r.statement.invalid? = none

theorem Buffer.mints_add {b : Buffer} {rs : List Record} {r : Record} :
    (b.add rs).Mints r ↔ b.Mints r := by
  constructor
  · rintro ⟨h1, h2, h3⟩
    rw [request_add] at h1
    rw [requestTimestamp_add] at h2
    exact ⟨h1, h2, h3⟩
  · rintro ⟨h1, h2, h3⟩
    exact ⟨by rw [request_add]; exact h1, by rw [requestTimestamp_add]; exact h2, h3⟩

theorem Materialize.invalid?_of_checkStatements {sts : List Statement}
    (h : checkStatements sts = .ok ()) : ∀ st ∈ sts, st.invalid? = none := by
  induction sts with
  | nil => simp
  | cons st sts ih =>
    unfold checkStatements at h
    split at h
    · cases h
    · rename_i hst
      intro x hx
      rcases List.mem_cons.mp hx with rfl | hx
      · exact hst
      · exact ih h x hx

namespace Step
variable {α β : Type}

/-- A step leaves the buffer alone. -/
def Quiet (s : Step α) : Prop := ∀ w : Workspace, (s.run.run w).2.buffer = w.buffer

/-- A step adds valid records of the request to the buffer, and does nothing else to it. -/
def OnlyAdds (s : Step α) : Prop :=
  ∀ w : Workspace, ∃ rs, (∀ r ∈ rs, w.buffer.Mints r) ∧
    (s.run.run w).2.buffer = w.buffer.add rs

theorem Quiet.onlyAdds {s : Step α} (h : s.Quiet) : s.OnlyAdds := fun w => ⟨[], by simp, h w⟩

/-! ### Steps in a row -/

theorem Quiet.bind {s : Step α} {f : α → Step β} (hs : s.Quiet) (hf : ∀ a, (f a).Quiet) :
    (s >>= f).Quiet := by
  intro w
  have hb := hs w
  rw [run_bind]
  rcases hsw : s.run.run w with ⟨e | a, w'⟩
  · rw [hsw] at hb
    exact hb
  · rw [hsw] at hb
    exact (hf a w').trans hb

/-- **Steps in a row** only add if each of them does. -/
theorem OnlyAdds.bind {s : Step α} {f : α → Step β} (hs : s.OnlyAdds) (hf : ∀ a, (f a).OnlyAdds) :
    (s >>= f).OnlyAdds := by
  intro w
  obtain ⟨rs, hmints, hb⟩ := hs w
  rw [run_bind]
  rcases hsw : s.run.run w with ⟨e | a, w'⟩
  · rw [hsw] at hb
    exact ⟨rs, hmints, hb⟩
  · rw [hsw] at hb
    obtain ⟨rs', hmints', hb'⟩ := hf a w'
    dsimp only at hb hb' ⊢
    rw [hb] at hmints' hb'
    refine ⟨rs ++ rs', fun r hr => ?_, by rw [hb', Buffer.add_append]⟩
    rcases List.mem_append.mp hr with hr | hr
    · exact hmints r hr
    · exact Buffer.mints_add.mp (hmints' r hr)

/-! ### Single steps -/

theorem quiet_ofExcept (x : Except Failure α) : (ofExcept x).Quiet := fun w => by
  rw [run_ofExcept]

theorem reads_quiet : Reads fun _ s => s.Quiet where
  pure _ _ := rfl
  ofExcept := quiet_ofExcept
  bind := Quiet.bind
  request _ := rfl
  buffer _ := rfl
  ask engine query := Quiet.bind (fun _ => rfl) fun _ => quiet_ofExcept _
  observing h := h
  drawing load w := by rw [run_drawing]

theorem onlyAdds_addStatements (t : ChangeType) (sts : List Statement) :
    (Materialize.addStatements t sts).OnlyAdds := by
  intro w
  rw [run_addStatements]
  cases hc : Materialize.checkStatements sts with
  | error e => exact ⟨[], by simp, rfl⟩
  | ok u =>
    refine ⟨sts.map (w.buffer.record t), fun r hr => ?_, rfl⟩
    obtain ⟨st, hst, rfl⟩ := List.mem_map.mp hr
    exact ⟨rfl, rfl, Materialize.invalid?_of_checkStatements hc st hst⟩

/-- **All steps** only add, whether they fail or not. -/
theorem kept_onlyAdds : Kept fun _ s => s.OnlyAdds where
  pure a := (reads_quiet.pure a).onlyAdds
  ofExcept x := (reads_quiet.ofExcept x).onlyAdds
  bind := OnlyAdds.bind
  request := reads_quiet.request.onlyAdds
  buffer := reads_quiet.buffer.onlyAdds
  ask engine query := (reads_quiet.ask engine query).onlyAdds
  observing h := h
  drawing load := (reads_quiet.drawing load).onlyAdds
  addStatements := onlyAdds_addStatements

end Step

end GraphLedger
