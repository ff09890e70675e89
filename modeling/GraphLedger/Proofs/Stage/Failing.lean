import GraphLedger.Proofs.Stage.Brought

/-! # Why steps fail

What a step gives, and why it fails, depends on the request whose buffer it works on. A step keeps
the request, so that for steps in a row it is enough to know what each gives and why it fails: the
next one starts on the same request and on what the one before gave.

A failure has one of few causes in the request. Its assertions are contradicted by an answer without
errors; its templates match too little or too much; one of its references cannot be loaded. All
other failures find fault with the request itself, and so do failures of queries, of documents that
are loaded, and of schemas.

* `Failure.CausedBy`: the cause of a failure in a request.
* `Step.Meets`: what a step gives and why it fails; `Step.Meets.bind`.
* `Assertion.meets_stage`, `Conformance.meets_stage`, `Materialize.meets_stage`: why stages fail. -/

namespace GraphLedger

/-! ### Causes -/

/-- **An assertion is contradicted** by the answer to its query if that has no errors and is empty
where it must not be, or not empty where it must be. -/
def Assertion.Contradicted (engine : QueryEngine) (a : Assertion) : Prop :=
  ∃ answer, engine a.query = .ok answer ∧ answer.errors = [] ∧
    match a.kind with
    | .emptyResult => hasResults (answer.data.getD .null) = true
    | .nonEmptyResult => hasResults (answer.data.getD .null) = false
    | .unrecognized _ => False

/-- The references of a request, in the order in which they are loaded. -/
def Request.references (r : Request) : List Reference := r.deleteFromRefs ++ r.insertFromRefs

/-- Whether a reference cannot be resolved or loaded because of some fault. -/
def Reference.FailsWith (loaders : List Loader) (ref : Reference) (fault : ReferenceFault) : Prop :=
  ∃ next, (loadReference loaders ref next).1 = .error fault.toFailure

/-- **The cause of a failure in a request.** Where none is told, the request itself is at fault. -/
def Failure.CausedBy (engine : QueryEngine) (loaders : List Loader) (r : Request) :
    Failure → Prop
  | .assertionFailed m => ∃ a index expected, (a, index) ∈ r.assertions.zipIdx ∧
    a.Contradicted engine ∧ .assertionFailed m = Assertion.notMet index expected a.query
  | .noMatches _ => r.hasTemplates = true
  | .tooManyMatches _ _ => r.hasTemplates = true
  | .reference m =>
    ∃ ref ∈ r.references, ∃ fault, ref.FailsWith loaders fault ∧ .reference m = fault.toFailure
  | e => e.status = .validationError

theorem Failure.causedBy_of_status {engine : QueryEngine} {loaders : List Loader} {r : Request}
    {e : Failure} (h : e.status = .validationError) : e.CausedBy engine loaders r := by
  cases e <;> first | exact h | cases h

/-- A loader that reads documents in memory or in files. -/
inductive Loader.IsBuiltIn : Loader → Prop where
  | memory (d : Loader.Documents) : Loader.IsBuiltIn (.memory d)
  | file (root : Option String) (read : String → Option String) :
    Loader.IsBuiltIn (.file root read)

/-! ### Steps -/

namespace Step
variable {α β : Type} {r : Request} {P : α → Prop} {P' : β → Prop} {Q : Failure → Prop}

/-- **What a step gives and why it fails**, on buffers of a request. The request is kept. -/
def Meets (r : Request) (P : α → Prop) (Q : Failure → Prop) (s : Step α) : Prop :=
  ∀ w : Workspace, w.buffer.request = r → (s.run.run w).2.buffer.request = r ∧
    match (s.run.run w).1 with
    | .ok a => P a
    | .error e => Q e

namespace Meets

/-- **Steps in a row**: the second works on what the first gives. -/
theorem bind {s : Step α} {f : α → Step β} (hs : s.Meets r P Q)
    (hf : ∀ a, P a → (f a).Meets r P' Q) : (s >>= f).Meets r P' Q := by
  intro w hw
  obtain ⟨hrequest, hresult⟩ := hs w hw
  rw [run_bind]
  rcases hsw : s.run.run w with ⟨e | a, w'⟩
  · rw [hsw] at hrequest hresult
    exact ⟨hrequest, hresult⟩
  · rw [hsw] at hrequest hresult
    exact hf a hresult w' hrequest

theorem pure {a : α} (h : P a) : Meets r P Q (Pure.pure a : Step α) := fun _ hw => ⟨hw, h⟩

theorem ofExcept {x : Except Failure α} (hok : ∀ a, x = .ok a → P a)
    (herror : ∀ e, x = .error e → Q e) : (Step.ofExcept x).Meets r P Q := by
  intro w hw
  rw [run_ofExcept]
  refine ⟨hw, ?_⟩
  cases x with
  | ok a => exact hok a rfl
  | error e => exact herror e rfl

theorem fail {e : Failure} (h : Q e) : Meets r P Q (throw e : Step α) := fun _ hw => ⟨hw, h⟩

theorem request : Step.request.Meets r (· = r) Q := fun _ hw => ⟨hw, hw⟩

theorem buffer : Step.buffer.Meets r (fun b => b.request = r) Q := fun _ hw => ⟨hw, hw⟩

theorem ask {engine : QueryEngine} {query : String}
    (h : ∀ e, engine query = .error e → Q e) :
    (Step.ask engine query).Meets r (fun answer => engine query = .ok answer) Q :=
  bind (P := fun _ => True) (fun _ hw => ⟨hw, trivial⟩) fun _ _ => ofExcept (fun _ => id) h

theorem observing {engine : QueryEngine} {query : String} :
    Meets r (fun answer => answer = engine query) Q
      (Assertion.check.observing (Step.ask engine query)) := by
  intro w hw
  have hrun := run_ask engine query w
  refine ⟨?_, congrArg Prod.fst hrun⟩
  rw [← hw]
  exact congrArg (fun q => q.2.buffer.request) hrun

theorem drawing {load : Nat → Except Failure α × Nat} (hok : ∀ n a, (load n).1 = .ok a → P a)
    (herror : ∀ n e, (load n).1 = .error e → Q e) : (Step.drawing load).Meets r P Q := by
  intro w hw
  rw [run_drawing]
  refine ⟨hw, ?_⟩
  cases h : (load w.supply).1 with
  | ok a => exact hok _ a h
  | error e => exact herror _ e h

theorem naming {t : JsonLd.Naming α} (h : ∀ fault : JsonLd.Fault, Q fault.toFailure) :
    (Step.naming t).Meets r (fun _ => True) Q := by
  refine drawing (fun _ _ _ => trivial) fun n e he => ?_
  rcases hrun : t.run (.start n) with ⟨fault | a, s⟩
  · rw [hrun] at he
    cases he
    exact h fault
  · rw [hrun] at he
    cases he

theorem add (rs : List Record) : (Step.add rs).Meets r (fun _ => True) Q := fun w hw =>
  ⟨(Buffer.request_add w.buffer rs).trans hw, trivial⟩

end Meets

end Step

theorem QueryResponse.toData_eq_ok_iff {answer : QueryResponse} {data : Json} :
    answer.toData = .ok data ↔ answer.errors = [] ∧ answer.data.getD .null = data := by
  unfold toData
  split
  · rename_i herrors
    rw [Except.ok.injEq]
    exact (and_iff_right (List.isEmpty_iff.mp herrors)).symm
  · rename_i herrors
    refine iff_of_false (by rintro ⟨⟩) fun h => ?_
    exact herrors (List.isEmpty_iff.mpr h.1)

section Stages
variable {engine : QueryEngine} {loaders : List Loader} {r : Request}

/-! ### Assertions -/

theorem Assertion.causedBy_verdict {a : Assertion} {index : Nat} {answer : QueryResponse}
    (ha : (a, index) ∈ r.assertions.zipIdx) (hanswer : engine a.query = .ok answer)
    (herrors : answer.errors = []) {e : Failure}
    (he : a.verdict index (answer.data.getD .null) = .error e) : e.CausedBy engine loaders r := by
  unfold verdict at he
  cases hkind : a.kind with
  | emptyResult =>
    rw [hkind] at he
    dsimp only at he
    split at he
    · rename_i hresults
      cases he
      exact ⟨a, index, _, ha, ⟨answer, hanswer, herrors, by rw [hkind]; exact hresults⟩, rfl⟩
    · cases he
  | nonEmptyResult =>
    rw [hkind] at he
    dsimp only at he
    split at he
    · cases he
    · rename_i hresults
      cases he
      refine ⟨a, index, _, ha, ⟨answer, hanswer, herrors, ?_⟩, rfl⟩
      rw [hkind]
      exact Bool.not_eq_true _ ▸ hresults
  | unrecognized name =>
    rw [hkind] at he
    cases he
    exact Failure.causedBy_of_status rfl

theorem Assertion.causedBy_outcome {a : Assertion} {index : Nat}
    (ha : (a, index) ∈ r.assertions.zipIdx) {e : Failure}
    (he : a.outcome index (engine a.query) = .error e) : e.CausedBy engine loaders r := by
  unfold outcome at he
  cases hanswer : engine a.query with
  | error e' =>
    rw [hanswer] at he
    cases he
    exact Failure.causedBy_of_status rfl
  | ok answer =>
    rw [hanswer] at he
    cases hdata : answer.toData with
    | error e' =>
      simp only [Except.bind, hdata] at he
      cases he
      exact Failure.causedBy_of_status rfl
    | ok data =>
      simp only [Except.bind, hdata] at he
      obtain ⟨herrors, rfl⟩ := QueryResponse.toData_eq_ok_iff.mp hdata
      exact causedBy_verdict ha hanswer herrors he

/-- **An assertion fails** if it is contradicted, or through a fault in it or its query. -/
theorem Assertion.meets_check {a : Assertion} {index : Nat}
    (ha : (a, index) ∈ r.assertions.zipIdx) :
    (a.check engine index).Meets r (fun _ => True) (Failure.CausedBy engine loaders r) := by
  unfold check
  split
  · rename_i name hkind
    refine .ofExcept (fun _ _ => trivial) fun e he => ?_
    rw [verdict, hkind] at he
    cases he
    exact Failure.causedBy_of_status rfl
  · refine .bind .observing fun answer hanswer => .ofExcept (fun _ _ => trivial) fun e he => ?_
    rw [hanswer] at he
    exact causedBy_outcome ha he

theorem Assertion.takeUp_append (limit : Nat) (underWay waiting : Indexed) :
    (takeUp limit underWay waiting).1 ++ (takeUp limit underWay waiting).2 =
      underWay ++ waiting := by
  rw [takeUp, List.append_assoc, List.take_append_drop]

/-- The assertions under way and those that wait are assertions of the request, by induction on how
many are left. -/
theorem Assertion.meets_checkAll {limit fuel : Nat} {underWay waiting : Indexed}
    (h : ∀ q ∈ underWay ++ waiting, q ∈ r.assertions.zipIdx) :
    (checkAll engine limit fuel underWay waiting).Meets r (fun _ => True)
      (Failure.CausedBy engine loaders r) := by
  induction fuel generalizing underWay waiting with
  | zero => exact .pure trivial
  | succ fuel ih =>
    rw [← takeUp_append limit] at h
    unfold checkAll
    rcases htake : takeUp limit underWay waiting with ⟨_ | ⟨⟨a, index⟩, underWay'⟩, waiting'⟩
    · exact .pure trivial
    · rw [htake] at h
      obtain ⟨hfirst, hrest⟩ := List.forall_mem_cons.mp h
      exact (meets_check hfirst).bind fun _ _ => ih hrest

/-- **The assertions of a request** fail only if one of them is contradicted, or at fault. -/
theorem Assertion.meets_stage (parallelism : Nat) :
    (stage engine parallelism).Meets r (fun _ => True) (Failure.CausedBy engine loaders r) := by
  refine .bind .request fun r' hr' => ?_
  subst hr'
  exact meets_checkAll fun q hq => hq

/-! ### Conformance -/

theorem Conformance.status_of_checkRecords {schema : Schema} {c : JsonLd.Context}
    {sliceId : String} {t : ChangeType} {rs : List Record} {e : Failure}
    (h : checkRecords schema c sliceId t rs = .error e) : e.status = .validationError := by
  unfold checkRecords at h
  split at h
  · cases h
  · split at h
    · cases h
      rfl
    · dsimp only at h
      split at h
      · cases h
      · cases h
        rfl

theorem status_of_parse {context : Json} {e : Failure}
    (h : (JsonLd.Context.parse context).mapError JsonLd.Fault.toFailure = .error e) :
    e.status = .validationError := by
  cases hc : JsonLd.Context.parse context with
  | error fault =>
    rw [hc] at h
    cases h
    rfl
  | ok c =>
    rw [hc] at h
    cases h

theorem Conformance.status_of_check {schemas : Schemas} {b : Buffer} {e : Failure}
    (h : check schemas b = .error e) : e.status = .validationError := by
  unfold check at h
  split at h
  · cases h
  · split at h
    · cases h
      rfl
    · rcases bind_eq_error_iff.mp h with hparse | ⟨c, -, h⟩
      · exact status_of_parse hparse
      · rcases bind_eq_error_iff.mp h with hinserts | ⟨-, -, hdeletes⟩
        · exact status_of_checkRecords hinserts
        · exact status_of_checkRecords hdeletes

/-- **Conformance** fails only if the records or the schema are at fault. -/
theorem Conformance.meets_stage (schemas : Schemas) :
    (stage schemas).Meets r (fun _ => True) (Failure.CausedBy engine loaders r) :=
  .bind .buffer fun _ _ => .ofExcept (fun _ _ => trivial) fun _ he =>
    Failure.causedBy_of_status (status_of_check he)

/-! ### References -/

theorem mem_of_resolveLoader {ref : Reference} {l : Loader}
    (h : resolveLoader loaders ref = .ok l) : l ∈ loaders := by
  unfold resolveLoader at h
  split at h
  · cases h
  · rename_i hfilter
    cases h
    exact List.mem_of_mem_filter (hfilter ▸ List.mem_cons_self)
  · cases h

namespace Loader.IsBuiltIn
variable {l : Loader} {ref : Reference} {n : Nat}

theorem stream_ok (h : l.IsBuiltIn) {stream : StatementStream}
    (hload : (l.load ref n).1 = .ok stream) : ∃ sts, stream = .ofList sts := by
  cases h with
  | memory d =>
    have hmemory : (Loader.loadMemory d ref).mapError ReferenceFault.toFailure = .ok stream := hload
    unfold Loader.loadMemory at hmemory
    split at hmemory
    · cases hmemory
      exact ⟨_, rfl⟩
    · cases hmemory
  | file root read =>
    have hfile : (Loader.loadFile root read ref n).1 = .ok stream := hload
    unfold Loader.loadFile at hfile
    split at hfile
    · cases hfile
    · split at hfile
      · cases hfile
        exact ⟨_, rfl⟩
      · cases hfile

theorem load_error (h : l.IsBuiltIn) {e : Failure} (hload : (l.load ref n).1 = .error e) :
    (∃ fault : ReferenceFault, e = fault.toFailure) ∨ e.status = .validationError := by
  cases h with
  | memory d =>
    have hmemory : (Loader.loadMemory d ref).mapError ReferenceFault.toFailure = .error e := hload
    cases hd : Loader.loadMemory d ref with
    | error fault =>
      rw [hd] at hmemory
      cases hmemory
      exact Or.inl ⟨fault, rfl⟩
    | ok stream =>
      rw [hd] at hmemory
      cases hmemory
  | file root read =>
    have hfile : (Loader.loadFile root read ref n).1 = .error e := hload
    unfold Loader.loadFile at hfile
    split at hfile
    · cases hfile
      exact Or.inl ⟨_, rfl⟩
    · split at hfile
      · cases hfile
      · cases hfile
        exact Or.inr rfl

end Loader.IsBuiltIn

section References
variable (hloaders : ∀ l ∈ loaders, l.IsBuiltIn)
include hloaders

theorem causedBy_loadReference {ref : Reference} (href : ref ∈ r.references) {n : Nat}
    {e : Failure} (h : (loadReference loaders ref n).1 = .error e) :
    e.CausedBy engine loaders r := by
  have hcause : (∃ fault : ReferenceFault, e = fault.toFailure) ∨ e.status = .validationError := by
    unfold loadReference at h
    split at h
    · rename_i l hl
      exact (hloaders l (mem_of_resolveLoader hl)).load_error h
    · cases h
      exact Or.inl ⟨_, rfl⟩
  rcases hcause with ⟨fault, rfl⟩ | hstatus
  · exact ⟨ref, href, fault, ⟨n, h⟩, rfl⟩
  · exact Failure.causedBy_of_status hstatus

theorem stream_of_loadReference {ref : Reference} {n : Nat} {stream : StatementStream}
    (h : (loadReference loaders ref n).1 = .ok stream) : ∃ sts, stream = .ofList sts := by
  unfold loadReference at h
  split at h
  · rename_i l hl
    exact (hloaders l (mem_of_resolveLoader hl)).stream_ok h
  · cases h

end References

/-! ### Adding -/

namespace Materialize

theorem status_of_checkStatements {sts : List Statement} {e : Failure}
    (h : checkStatements sts = .error e) : e.status = .validationError := by
  induction sts with
  | nil => cases h
  | cons st sts ih =>
    unfold checkStatements at h
    split at h
    · cases h
      rfl
    · exact ih h

theorem meets_addStatements (t : ChangeType) (sts : List Statement) :
    (addStatements t sts).Meets r (fun _ => True) (Failure.CausedBy engine loaders r) := by
  refine .bind (P := fun _ => True) (.ofExcept (fun _ _ => trivial) fun e he => ?_) fun _ _ => ?_
  · exact Failure.causedBy_of_status (status_of_checkStatements he)
  · exact .bind .buffer fun b _ => .add _

theorem meets_addBatches (t : ChangeType) {batches : List StatementStream}
    (h : ∀ batch ∈ batches, ∀ item ∈ batch, ∃ st, item = .ok st) :
    (addBatches t batches).Meets r (fun _ => True) (Failure.CausedBy engine loaders r) := by
  induction batches with
  | nil => exact .pure trivial
  | cons batch rest ih =>
    obtain ⟨hbatch, hrest⟩ := List.forall_mem_cons.mp h
    refine .bind (P := fun _ => True) (.ofExcept (fun _ _ => trivial) fun e he => ?_) fun sts _ => ?_
    · obtain ⟨item, hitem, herror⟩ := exists_of_mapM_eq_error he
      obtain ⟨st, rfl⟩ := hbatch item hitem
      cases herror
    · exact (meets_addStatements t sts).bind fun _ _ => ih hrest

section References
variable (hloaders : ∀ l ∈ loaders, l.IsBuiltIn)
include hloaders

theorem meets_addReferences (limits : Limits) (t : ChangeType) {refs : List Reference}
    (h : ∀ ref ∈ refs, ref ∈ r.references) :
    (addReferences loaders limits t refs).Meets r (fun _ => True)
      (Failure.CausedBy engine loaders r) := by
  induction refs with
  | nil => exact .pure trivial
  | cons ref refs ih =>
    obtain ⟨href, hrest⟩ := List.forall_mem_cons.mp h
    refine .bind (P := fun _ => True) ?_ fun _ _ => ih hrest
    refine .bind (P := fun stream => ∃ sts, stream = .ofList sts)
      (.drawing (fun n _ hok => stream_of_loadReference hloaders hok)
        fun n e he => causedBy_loadReference hloaders href he) fun stream hstream => ?_
    obtain ⟨sts, rfl⟩ := hstream
    refine meets_addBatches t fun batch hbatch item hitem => ?_
    -- what is in a batch is in the stream
    have hmem := List.mem_flatten.mpr ⟨batch, hbatch, hitem⟩
    rw [flatten_chunks _ _ _ (Nat.le_refl _)] at hmem
    obtain ⟨st, -, rfl⟩ := List.mem_map.mp hmem
    exact ⟨st, rfl⟩

end References

end Materialize

/-! ### Entries -/

theorem Template.status_of_nodes {text : String} {data : Json} {e : Failure}
    (h : Template.nodes text data = .error e) : e.status = .validationError := by
  unfold Template.nodes at h
  split at h
  · cases h
    rfl
  · split at h
    · cases h
      rfl
    · unfold Template.nodesOfValue at h
      split at h
      · cases h
      · obtain ⟨v, -, hv⟩ := exists_of_mapM_eq_error h
        unfold Template.nodeOfItem at hv
        split at hv
        · cases hv
        · cases hv
          rfl
      · cases h
        rfl

namespace Materialize

theorem status_of_expandEntry {bindings : Option Json} {entry : Entry} {e : Failure}
    (h : expandEntry bindings entry = .error e) : e.status = .validationError := by
  cases entry with
  | node fs => cases h
  | template text =>
    have hnodes : templateNodes text bindings = .error e := by
      rw [expandEntry] at h
      cases hnodes : templateNodes text bindings with
      | error e' => rw [hnodes] at h; cases h; rfl
      | ok ns => rw [hnodes] at h; cases h
    unfold templateNodes at hnodes
    split at hnodes
    · cases hnodes
      rfl
    · split at hnodes
      · cases hnodes
      · exact Template.status_of_nodes hnodes

theorem status_of_expand {bindings : Option Json} {entries : List Entry} {e : Failure}
    (h : expand bindings entries = .error e) : e.status = .validationError := by
  induction entries with
  | nil => cases h
  | cons entry entries ih =>
    rw [expand] at h
    rcases bind_eq_error_iff.mp h with hfirst | ⟨first, -, h⟩
    · exact status_of_expandEntry hfirst
    · rcases bind_eq_error_iff.mp h with hrest | ⟨rest, -, h⟩
      · exact ih hrest
      · cases h

theorem needsBindings_of_templated {bindings : Option Json} {entries : List Entry} {x : Expanded}
    (h : expand bindings entries = .ok x) (hx : x.templated ≠ 0) :
    entries.any Entry.needsBindings = true := by
  induction entries generalizing x with
  | nil =>
    cases h
    exact absurd rfl hx
  | cons entry entries ih =>
    rw [expand] at h
    obtain ⟨first, hfirst, h⟩ := bind_eq_ok_iff.mp h
    obtain ⟨rest, hrest, h⟩ := bind_eq_ok_iff.mp h
    cases h
    rw [List.any_cons, Bool.or_eq_true]
    cases entry with
    | template text => exact Or.inl rfl
    | node fs =>
      cases hfirst
      refine Or.inr (ih hrest fun hzero => hx ?_)
      show 0 + rest.templated = 0
      rw [hzero]

/-- **Entries fail to be expanded** through templates that match too little or too much, or because
they are at fault. -/
theorem causedBy_expandRequest {limits : Limits} {bindings : Option Json} {e : Failure}
    (h : expandRequest limits r bindings = .error e) : e.CausedBy engine loaders r := by
  rcases bind_eq_error_iff.mp h with hmatches | ⟨-, -, h⟩
  · unfold checkMatches at hmatches
    split at hmatches
    · cases hmatches
    · split at hmatches
      · rename_i htemplates
        cases hmatches
        exact (Bool.and_eq_true_iff.mp htemplates).1
      · cases hmatches
  rcases bind_eq_error_iff.mp h with hdeletes | ⟨deletes, hdeletes, h⟩
  · exact Failure.causedBy_of_status (status_of_expand hdeletes)
  rcases bind_eq_error_iff.mp h with hinserts | ⟨inserts, hinserts, h⟩
  · exact Failure.causedBy_of_status (status_of_expand hinserts)
  dsimp only at h
  split at h
  · rename_i hlimit
    cases h
    show r.hasTemplates = true
    rw [Request.hasTemplates, List.any_append, Bool.or_eq_true]
    by_cases hzero : inserts.templated = 0
    · refine Or.inr (needsBindings_of_templated hdeletes ?_)
      omega
    · exact Or.inl (needsBindings_of_templated hinserts hzero)
  · cases h

section Engine
variable (hengine : ∀ query e, engine query = .error e → e.status = .validationError)
include hengine

theorem meets_bindings :
    (bindings engine r).Meets r (fun _ => True) (Failure.CausedBy engine loaders r) := by
  unfold bindings
  split
  · exact .pure trivial
  · refine .bind (.ask fun e he => Failure.causedBy_of_status (hengine _ e he)) fun answer _ => ?_
    refine .bind (P := fun _ => True) (.ofExcept (fun _ _ => trivial) fun e he => ?_)
      fun _ _ => .pure trivial
    unfold QueryResponse.toData at he
    split at he
    · cases he
    · cases he
      exact Failure.causedBy_of_status rfl

theorem meets_addExpanded (limits : Limits) :
    (addExpanded engine limits r).Meets r (fun _ => True) (Failure.CausedBy engine loaders r) := by
  refine (meets_bindings hengine).bind fun answer _ => ?_
  refine .bind (P := fun _ => True)
    (.ofExcept (fun _ _ => trivial) fun _ he => causedBy_expandRequest he) fun ⟨deletes, inserts⟩ _ => ?_
  refine .bind (P := fun _ => True) (.ofExcept (fun _ _ => trivial) fun _ he =>
    Failure.causedBy_of_status (status_of_parse he)) fun c _ => ?_
  refine .bind (.naming fun fault => Failure.causedBy_of_status rfl) fun ⟨ds, is⟩ _ => ?_
  exact (meets_addStatements .delete ds).bind fun _ _ => meets_addStatements .insert is

/-- **Materializing** fails only for one of the causes in its request. -/
theorem meets_stage (hloaders : ∀ l ∈ loaders, l.IsBuiltIn) (limits : Limits) :
    (stage engine loaders limits).Meets r (fun _ => True) (Failure.CausedBy engine loaders r) := by
  refine .bind .request fun r' hr' => ?_
  subst hr'
  refine .bind (meets_addReferences hloaders limits .delete fun _ => List.mem_append_left _)
    fun _ _ => ?_
  refine .bind (meets_addReferences hloaders limits .insert fun _ => List.mem_append_right _)
    fun _ _ => ?_
  refine .bind .request fun r'' hr'' => ?_
  subst hr''
  split
  · split
    · exact .fail (Failure.causedBy_of_status rfl)
    · exact meets_addExpanded hengine limits
  · exact .pure trivial

end Engine

end Materialize

end Stages

end GraphLedger
