import GraphLedger.Proofs.Stage.Failing

/-! # The size of batches

What a reference holds is added batch by batch. Before a batch is added, its failures are looked for
first, and then its statements are checked in turn. So a batch is added as a whole, and the size of
batches does not tell whether a stream is added, nor what is in the buffer then. It can only tell
which fault is reported of a stream that has several. The first fault is in the same batch as all
that is valid before it, as far as this is not added yet; if it is a failure, it is the first one of
its batch, and is reported. If it is an invalid statement, a failure behind it is found first when
it is in the same batch.

* `checkBatch`: what is found wrong in a batch; `run_addBatches_cons`.
* `addBatches_at_fault`: what is reported is decided in the batch of the first fault.
* `Overtaken`: a stream with an invalid statement and a failure behind it.
* `AtAllSizes.bind`: runs at all sizes, for steps in a row.
* `batch_size_told_by_failures_only`: materializing at all sizes. -/

namespace GraphLedger

open StatementStream (ofList)

namespace Materialize

/-! ### One batch -/

/-- The statements of a batch, unless there is a failure in it or one of them is not valid. -/
def checkBatch (batch : StatementStream) : Except Failure (List Statement) := do
  let sts ← batchStatements batch
  checkStatements sts
  return sts

theorem run_addBatches_cons (t : ChangeType) (batch : StatementStream)
    (rest : List StatementStream) (w : Workspace) :
    (addBatches t (batch :: rest)).run.run w = match checkBatch batch with
      | .ok sts => (addBatches t rest).run.run
          { w with buffer := w.buffer.add (sts.map (w.buffer.record t)) }
      | .error e => (.error e, w) := by
  rw [addBatches, Step.run_bind, Step.run_ofExcept, checkBatch]
  cases batchStatements batch with
  | error e => rfl
  | ok sts =>
    dsimp only
    rw [Step.run_bind, Step.run_addStatements]
    show _ = match (checkStatements sts >>= fun _ => Except.ok sts) with
      | .ok sts => _
      | .error e => _
    cases checkStatements sts <;> rfl

section Batch
variable {st : Statement} {sts : List Statement} {x : InvalidIri} {f e : Failure}

theorem checkBatch_cons (h : st.invalid? = none) (batch : StatementStream) :
    checkBatch (.ok st :: batch) = (checkBatch batch).map (st :: ·) := by
  have hcons : batchStatements (.ok st :: batch) = (batchStatements batch).map (st :: ·) := by
    unfold batchStatements
    rw [List.mapM_cons]
    cases batch.mapM id <;> rfl
  unfold checkBatch
  rw [hcons]
  cases batchStatements batch with
  | error e => rfl
  | ok sts =>
    show (checkStatements (st :: sts) >>= fun _ => _) =
      Except.map _ (checkStatements sts >>= fun _ => Except.ok sts)
    rw [checkStatements, h]
    cases checkStatements sts <;> rfl

theorem checkBatch_append (h : ∀ v ∈ sts, v.invalid? = none) (batch : StatementStream) :
    checkBatch (ofList sts ++ batch) = (checkBatch batch).map (sts ++ ·) := by
  induction sts with
  | nil =>
    show checkBatch batch = _
    cases checkBatch batch <;> rfl
  | cons st sts ih =>
    obtain ⟨hst, hsts⟩ := List.forall_mem_cons.mp h
    show checkBatch (.ok st :: (ofList sts ++ batch)) = _
    rw [checkBatch_cons hst, ih hsts]
    cases checkBatch batch <;> rfl

theorem checkBatch_ofList (h : ∀ v ∈ sts, v.invalid? = none) :
    checkBatch (ofList sts) = .ok sts := by
  have happend := checkBatch_append h []
  rw [List.append_nil] at happend
  rw [happend]
  show Except.ok (sts ++ []) = _
  rw [List.append_nil]

/-- **The first failure of a batch** is what is found wrong in it, whatever the statements before
it are. -/
theorem checkBatch_of_failure (sts : List Statement) (f : Failure) (rest : StatementStream) :
    checkBatch (ofList sts ++ .error f :: rest) = .error f := by
  have hfailure : batchStatements (ofList sts ++ .error f :: rest) = .error f := by
    induction sts with
    | nil => rfl
    | cons st sts ih =>
      show (Except.ok st :: (ofList sts ++ .error f :: rest)).mapM id = _
      rw [List.mapM_cons]
      exact congrArg (fun r => (do let tail ← r; return st :: tail)) ih
  rw [checkBatch, hfailure]
  rfl

theorem checkBatch_of_invalid (h : st.invalid? = some x) (sts : List Statement) :
    checkBatch (ofList (st :: sts)) = .error (.invalidIri x) := by
  have hok : batchStatements (ofList (st :: sts)) = .ok (st :: sts) :=
    mapM_id_eq_ok_iff.mpr rfl
  rw [checkBatch, hok]
  show (checkStatements (st :: sts) >>= fun _ => _) = _
  rw [checkStatements, h]
  rfl

end Batch

/-! ### The batches of a stream -/

theorem length_ofList (sts : List Statement) : (ofList sts).length = sts.length := List.length_map _

theorem chunks_succ {A : Type} (size fuel : Nat) {xs : List A} (h : xs ≠ []) :
    chunks size (fuel + 1) xs =
      xs.take (max size 1) :: chunks size fuel (xs.drop (max size 1)) := by
  cases xs with
  | nil => exact absurd rfl h
  | cons x xs => rfl

/-- **What is reported is decided in the batch of the first fault**: of what comes behind the valid
statements at the beginning, by as much as there is room for in their last batch. -/
theorem addBatches_at_fault (t : ChangeType) (size : Nat) {sts : List Statement}
    (h : ∀ v ∈ sts, v.invalid? = none) {tail : StatementStream} {e : Failure}
    (he : checkBatch (tail.take (max size 1 - sts.length % max size 1)) = .error e) (fuel : Nat)
    (hfuel : (ofList sts ++ tail).length ≤ fuel) (w : Workspace) :
    ((addBatches t (chunks size fuel (ofList sts ++ tail))).run.run w).1 = .error e := by
  have htail : tail ≠ [] := fun hnil => by
    rw [hnil, List.take_nil] at he
    cases he
  have hsize : 1 ≤ max size 1 := Nat.le_max_right size 1
  rw [List.length_append, length_ofList] at hfuel
  induction fuel generalizing sts w with
  | zero =>
    have hpositive := List.length_pos_of_ne_nil htail
    omega
  | succ fuel ih =>
    rw [chunks_succ size fuel (List.append_ne_nil_of_right_ne_nil _ htail), run_addBatches_cons]
    by_cases hfull : max size 1 ≤ sts.length
    · -- the first batch is full of valid statements
      have htake : (ofList sts ++ tail).take (max size 1) =
          ofList (sts.take (max size 1)) := by
        rw [List.take_append_of_le_length (by rwa [length_ofList])]
        exact List.map_take.symm
      have hdrop : (ofList sts ++ tail).drop (max size 1) =
          ofList (sts.drop (max size 1)) ++ tail := by
        rw [List.drop_append_of_le_length (by rwa [length_ofList])]
        exact congrArg (· ++ tail) List.map_drop.symm
      rw [htake, hdrop, checkBatch_ofList fun v hv => h v (List.mem_of_mem_take hv)]
      refine ih (fun v hv => h v (List.mem_of_mem_drop hv)) ?_ ?_ _
      · rwa [List.length_drop, ← Nat.mod_eq_sub_mod hfull]
      · rw [List.length_drop]
        omega
    · have hroom : sts.length % max size 1 = sts.length := Nat.mod_eq_of_lt (Nat.lt_of_not_le hfull)
      have htake : (ofList sts ++ tail).take (max size 1) =
          ofList sts ++ tail.take (max size 1 - sts.length % max size 1) := by
        rw [List.take_append, List.take_of_length_le (by rw [length_ofList]; omega), length_ofList,
          hroom]
      rw [htake, checkBatch_append h, he]
      rfl

/-- The number of the batch in which a place of a stream is. -/
def batchOf (size place : Nat) : Nat := place / max size 1

theorem batchOf_eq_iff (size i k : Nat) :
    batchOf size i = batchOf size (i + k) ↔ k < max size 1 - i % max size 1 := by
  have hsize : 0 < max size 1 := Nat.le_max_right size 1
  have hsplit : i + k = (i % max size 1 + k) + max size 1 * (i / max size 1) := by
    have hdiv := Nat.mod_add_div i (max size 1)
    omega
  unfold batchOf
  rw [hsplit, Nat.add_mul_div_left _ _ hsize, right_eq_add, Nat.div_eq_zero_iff_lt hsize]
  have hmod := Nat.mod_lt i hsize
  omega

/-- **An invalid statement with a failure behind it**: all that is before the statement is valid,
and there is no other failure before the one. The two are at certain places. -/
inductive Overtaken : StatementStream → Nat → Nat → InvalidIri → Failure → Prop
  | intro {sts between : List Statement} {st : Statement} {x : InvalidIri} (f : Failure)
      (behind : StatementStream) : (∀ v ∈ sts, v.invalid? = none) → st.invalid? = some x →
      Overtaken (ofList sts ++ .ok st :: (ofList between ++ .error f :: behind)) sts.length
        (sts.length + (between.length + 1)) x f

theorem exists_first_failure (stream : StatementStream) : (∃ sts, stream = ofList sts) ∨
    ∃ sts f rest, stream = ofList sts ++ .error f :: rest := by
  induction stream with
  | nil => exact Or.inl ⟨[], rfl⟩
  | cons item stream ih =>
    cases item with
    | error f => exact Or.inr ⟨[], f, stream, rfl⟩
    | ok st =>
      rcases ih with ⟨sts, rfl⟩ | ⟨sts, f, rest, rfl⟩
      · exact Or.inl ⟨st :: sts, rfl⟩
      · exact Or.inr ⟨st :: sts, f, rest, rfl⟩

theorem exists_first_invalid (sts : List Statement) : (∀ v ∈ sts, v.invalid? = none) ∨
    ∃ before st after x, sts = before ++ st :: after ∧ (∀ v ∈ before, v.invalid? = none) ∧
      st.invalid? = some x := by
  cases hcheck : checkStatements sts with
  | ok u => exact Or.inl (invalid?_of_checkStatements hcheck)
  | error e =>
    obtain ⟨before, st, after, x, hsts, hbefore, hx, -⟩ := checkStatements_eq_error_iff.mp hcheck
    exact Or.inr ⟨before, st, after, x, hsts, hbefore, hx⟩

/-- **The failure is found first** if there is room for it in the batch of the invalid statement. -/
theorem checkBatch_overtaken {st : Statement} {x : InvalidIri} (h : st.invalid? = some x)
    (between : List Statement) (f : Failure) (behind : StatementStream) {room : Nat}
    (hroom : 0 < room) :
    checkBatch ((.ok st :: (ofList between ++ .error f :: behind)).take room) =
      .error (if between.length + 1 < room then f else .invalidIri x) := by
  obtain ⟨room, rfl⟩ := Nat.exists_eq_add_one_of_ne_zero (Nat.ne_of_gt hroom)
  rw [List.take_succ_cons]
  by_cases hfits : between.length < room
  · obtain ⟨left, hleft⟩ : ∃ left, room - between.length = left + 1 :=
      Nat.exists_eq_add_one_of_ne_zero (by omega)
    rw [if_pos (Nat.succ_lt_succ hfits), List.take_append,
      List.take_of_length_le (by rw [length_ofList]; omega), length_ofList, hleft,
      List.take_succ_cons]
    exact checkBatch_of_failure (st :: between) f _
  · have htake : (ofList between ++ .error f :: behind).take room = ofList (between.take room) := by
      rw [List.take_append_of_le_length (by rw [length_ofList]; omega)]
      exact List.map_take.symm
    rw [if_neg (by omega), htake]
    exact checkBatch_of_invalid h _

/-- **What a stream is like**: valid, with a fault that is reported at every size, or overtaken. -/
theorem stream_cases (stream : StatementStream) :
    (∃ sts, stream = ofList sts ∧ ∀ v ∈ sts, v.invalid? = none) ∨
    (∃ sts tail e, stream = ofList sts ++ tail ∧ (∀ v ∈ sts, v.invalid? = none) ∧
      ∀ room, 0 < room → checkBatch (tail.take room) = .error e) ∨
    ∃ i j x f, Overtaken stream i j x f := by
  rcases exists_first_failure stream with ⟨sts, rfl⟩ | ⟨sts, f, rest, rfl⟩
  · rcases exists_first_invalid sts with hvalid | ⟨before, st, after, x, rfl, hvalid, hx⟩
    · exact Or.inl ⟨sts, rfl, hvalid⟩
    · refine Or.inr (Or.inl ⟨before, ofList (st :: after), .invalidIri x, List.map_append, hvalid,
        fun room hroom => ?_⟩)
      obtain ⟨room, rfl⟩ := Nat.exists_eq_add_one_of_ne_zero (Nat.ne_of_gt hroom)
      have htake : (ofList (st :: after)).take (room + 1) = ofList (st :: after.take room) :=
        List.map_take.symm
      rw [htake]
      exact checkBatch_of_invalid hx _
  · rcases exists_first_invalid sts with hvalid | ⟨before, st, after, x, rfl, hvalid, hx⟩
    · refine Or.inr (Or.inl ⟨sts, .error f :: rest, f, rfl, hvalid, fun room hroom => ?_⟩)
      obtain ⟨room, rfl⟩ := Nat.exists_eq_add_one_of_ne_zero (Nat.ne_of_gt hroom)
      exact checkBatch_of_failure [] f _
    · have hstream : ofList (before ++ st :: after) ++ .error f :: rest =
          ofList before ++ .ok st :: (ofList after ++ .error f :: rest) := by
        unfold ofList
        rw [List.map_append, List.append_assoc]
        rfl
      rw [hstream]
      exact Or.inr (Or.inr ⟨_, _, x, f, .intro f rest hvalid hx⟩)

/-! ### Runs at all sizes -/

/-- **What is reported at each size of batches**, if loading references fails: always the same, or,
if the stream of a reference has an invalid statement with a failure behind it, the failure at those
sizes at which the two are in one batch. -/
inductive Reported (loaders : List Loader) (refs : List Reference) : (Nat → Failure) → Prop
  | always (f : Failure) : Reported loaders refs fun _ => f
  | bySize {ref : Reference} {next i j : Nat} {stream : StatementStream} {x : InvalidIri}
      {f : Failure} : ref ∈ refs → (loadReference loaders ref next).1 = .ok stream →
      Overtaken stream i j x f →
      Reported loaders refs fun size => if batchOf size i = batchOf size j then f else .invalidIri x

/-- **A step at all sizes**: it succeeds at all of them and leaves the same, or it fails at all of
them. -/
def AtAllSizes (loaders : List Loader) (refs : List Reference) (s : Nat → Step Unit) : Prop :=
  ∀ w, (∃ w', ∀ size, (s size).run.run w = (.ok (), w')) ∨
    ∃ report, Reported loaders refs report ∧
      ∀ size, ((s size).run.run w).1 = .error (report size)

section AtAllSizes
variable {loaders : List Loader} {refs : List Reference}

theorem atAllSizes_const (s : Step Unit) : AtAllSizes loaders refs fun _ => s := by
  intro w
  rcases hrun : s.run.run w with ⟨e | u, w'⟩
  · exact Or.inr ⟨fun _ => e, .always e, fun _ => congrArg Prod.fst hrun⟩
  · exact Or.inl ⟨w', fun _ => hrun⟩

/-- **Steps in a row** end alike at all sizes if each of them does. -/
theorem AtAllSizes.bind {s s' : Nat → Step Unit} (hs : AtAllSizes loaders refs s)
    (hs' : AtAllSizes loaders refs s') :
    AtAllSizes loaders refs fun size => s size >>= fun _ => s' size := by
  intro w
  rcases hs w with ⟨w', hok⟩ | ⟨report, hreport, herror⟩
  · rcases hs' w' with ⟨w'', hok'⟩ | ⟨report, hreport, herror⟩
    · refine Or.inl ⟨w'', fun size => ?_⟩
      rw [Step.run_bind, hok]
      exact hok' size
    · refine Or.inr ⟨report, hreport, fun size => ?_⟩
      rw [Step.run_bind, hok]
      exact herror size
  · refine Or.inr ⟨report, hreport, fun size => ?_⟩
    have hfails := herror size
    rw [Step.run_bind]
    rcases hrun : (s size).run.run w with ⟨e | u, w'⟩
    · rw [hrun] at hfails
      exact hfails
    · rw [hrun] at hfails
      cases hfails

/-- **The batches of a stream** that is loaded for a reference. -/
theorem atAllSizes_stream (t : ChangeType) {ref : Reference} (href : ref ∈ refs) {next : Nat}
    {stream : StatementStream} (hload : (loadReference loaders ref next).1 = .ok stream) :
    AtAllSizes loaders refs fun size => addBatches t (chunks size stream.length stream) := by
  intro w
  have hroom : ∀ size n, 0 < max size 1 - n % max size 1 := fun size n =>
    Nat.sub_pos_of_lt (Nat.mod_lt n (Nat.le_max_right size 1))
  rcases stream_cases stream with ⟨sts, hstream, hvalid⟩ | ⟨sts, tail, e, hstream, hvalid, he⟩ |
    ⟨i, j, x, f, hovertaken⟩
  · have hadds : ∀ size, Adds (addBatches t (chunks size stream.length stream))
        (.ok (sts.map (t, ·))) := fun size => by
      rw [← admitted_eq_ok_iff.mpr ⟨sts, ?_, hvalid, rfl⟩]
      · exact adds_addBatches t (chunks size stream.length stream)
      · rw [flatten_chunks _ _ _ (Nat.le_refl _)]
        exact hstream
    exact Or.inl ⟨_, fun size => hadds size w⟩
  · refine Or.inr ⟨_, .always e, fun size => ?_⟩
    subst hstream
    exact addBatches_at_fault t size hvalid (he _ (hroom _ _)) _ (Nat.le_refl _) w
  · refine Or.inr ⟨_, .bySize href hload hovertaken, fun size => ?_⟩
    cases hovertaken with
    | @intro sts between st x f behind hvalid hx =>
      have he := checkBatch_overtaken hx between f behind (hroom size sts.length)
      rw [addBatches_at_fault t size hvalid he _ (Nat.le_refl _) w]
      simp only [batchOf_eq_iff]

/-- **A reference** is added with the same end at all sizes, as its stream is. -/
theorem atAllSizes_addReference (max : Nat) (t : ChangeType) {ref : Reference} (href : ref ∈ refs) :
    AtAllSizes loaders refs fun size => addReference loaders ⟨size, max⟩ t ref := by
  intro w
  have hrun : ∀ size, (addReference loaders ⟨size, max⟩ t ref).run.run w =
      match (loadReference loaders ref w.supply).1 with
      | .ok stream => (addBatches t (chunks size stream.length stream)).run.run
          { w with supply := (loadReference loaders ref w.supply).2 }
      | .error e => (.error e, { w with supply := (loadReference loaders ref w.supply).2 }) := by
    intro size
    rw [addReference, Step.run_bind, Step.run_drawing]
    cases (loadReference loaders ref w.supply).1 <;> rfl
  cases hload : (loadReference loaders ref w.supply).1 with
  | error e =>
    refine Or.inr ⟨_, .always e, fun size => ?_⟩
    rw [hrun, hload]
  | ok stream =>
    have hstream := atAllSizes_stream t href hload
      { w with supply := (loadReference loaders ref w.supply).2 }
    simp only [hrun, hload]
    exact hstream

theorem atAllSizes_addReferences (max : Nat) (t : ChangeType) {some : List Reference}
    (h : some ⊆ refs) :
    AtAllSizes loaders refs fun size => addReferences loaders ⟨size, max⟩ t some := by
  induction some with
  | nil => exact atAllSizes_const (pure ())
  | cons ref rest ih =>
    obtain ⟨href, hrest⟩ := List.cons_subset.mp h
    exact (atAllSizes_addReference max t href).bind (ih hrest)

end AtAllSizes

/-- **The size of batches is told by failures only.** Materializing a request succeeds at all sizes
and leaves the same, whatever the loaders give and whatever is in the buffer, or it fails at all
sizes. What is reported then is the same at all sizes, unless a reference has a stream with an
invalid statement before its first failure: this failure is reported at the sizes at which the two
are in one batch, and the invalid statement at all others. -/
theorem batch_size_told_by_failures_only (engine : QueryEngine) (loaders : List Loader) (max : Nat)
    (w : Workspace) :
    let run := fun size => (stage engine loaders ⟨size, max⟩).run.run w
    (∃ w', ∀ size, run size = (.ok (), w')) ∨
    (∃ f, ∀ size, (run size).1 = .error f) ∨
    ∃ ref ∈ w.buffer.request.references, ∃ next stream i j x f,
      (loadReference loaders ref next).1 = .ok stream ∧ Overtaken stream i j x f ∧
      ∀ size, (run size).1 = .error (if batchOf size i = batchOf size j then f else .invalidIri x) := by
  intro run
  let r := w.buffer.request
  have hdeletes : AtAllSizes loaders r.references fun size =>
      addReferences loaders ⟨size, max⟩ .delete r.deleteFromRefs :=
    atAllSizes_addReferences max .delete (List.subset_append_left _ _)
  have hinserts : AtAllSizes loaders r.references fun size =>
      addReferences loaders ⟨size, max⟩ .insert r.insertFromRefs :=
    atAllSizes_addReferences max .insert (List.subset_append_right _ _)
  have hentries : AtAllSizes loaders r.references fun size => addEntries engine ⟨size, max⟩ :=
    atAllSizes_const (addEntries engine ⟨0, max⟩)
  rcases (hdeletes.bind (hinserts.bind hentries)) w with hok | ⟨report, hreport, herror⟩
  · exact Or.inl hok
  · cases hreport with
    | always f => exact Or.inr (Or.inl ⟨f, herror⟩)
    | @bySize ref next i j stream x f href hload hovertaken =>
      exact Or.inr (Or.inr ⟨ref, href, next, stream, i, j, x, f, hload, hovertaken, herror⟩)

/-- A loader whose only stream breaks off behind an invalid statement. -/
def breakingOff : List Loader :=
  [.fixed "one" "x:" [.ok (Statement.ofLiteral "nobody" "urn:p" "a" "" none none),
    .error (.storage "b" "down")]]

/-- A request to insert what the loader gives. -/
def insertingStream : Request :=
  { Request.new "01ARZ3NDEKTSV4RRFFQ69G5FAV" "pod" with insertFromRefs := [⟨"x:1", none⟩] }

/-- **What is reported depends on the size of batches**: with the statement in a batch of its own,
it is found to be invalid; together with the failure, the failure is found. -/
theorem failure_depends_on_batch_size :
    let run := fun size => (stage (fun _ => .ok ⟨none, []⟩) breakingOff ⟨size, 0⟩).run.run
      ⟨.openAt insertingStream default, [], 0⟩
    insertingStream.fault? = none ∧ insertingStream.hasRefs = true ∧
      (run 1).1 = .error (.invalidIri ⟨.subject, "nobody"⟩) ∧
      (run 2).1 = .error (.storage "b" "down") ∧ (run 1).1 ≠ (run 2).1 := by
  decide +kernel

end Materialize

end GraphLedger
