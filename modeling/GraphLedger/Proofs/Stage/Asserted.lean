import GraphLedger.Proofs.Stage.Failing

/-! # The first assertion that fails decides

However many assertions are under way at a time, they are answered in their order, and when one
fails the rest are dropped. So checking the assertions of a request comes to checking one after the
other until one fails, whose failure tells its index. What an assertion comes to depends on its
query alone: not on the workspace, and, but for the index, not on its place in the request. So a
request succeeds if each of its assertions would by itself, in whatever order they are.

* `Passes`, `FailsWith`: what an assertion comes to when it is checked by itself.
* `passes_iff`: an assertion passes if it holds for an answer without errors.
* `checkAll_eq_forM`: many at a time, or one after the other.
* `decided_by_first_failing`: when a request passes, and how it fails. -/

namespace GraphLedger.Assertion

/-! ### One assertion -/

/-- Whether an assertion is of a known kind, so that its query is put. -/
def isRecognized (a : Assertion) : Bool :=
  match a.kind with
  | .unrecognized _ => false
  | _ => true

/-- The queries of those assertions that are recognized. -/
def queries (as : List Assertion) : List String := (as.filter isRecognized).map query

/-- **An assertion passes** when it is checked by itself, at whatever index. -/
def Passes (engine : QueryEngine) (a : Assertion) : Prop :=
  ∀ index w, ((a.check engine index).run.run w).1 = .ok ()

/-- **An assertion fails** when it is checked by itself at an index. -/
def FailsWith (engine : QueryEngine) (index : Nat) (a : Assertion) (e : Failure) : Prop :=
  ∀ w, ((a.check engine index).run.run w).1 = .error e

/-- Whether the data of an answer is what an assertion says. -/
def Allows (a : Assertion) (data : Json) : Prop :=
  match a.kind with
  | .emptyResult => hasResults data = false
  | .nonEmptyResult => hasResults data = true
  | .unrecognized _ => False

/-- **An assertion holds** if there is an answer to its query without errors, and it is empty, or it
is not, as the assertion says. -/
def Holds (engine : QueryEngine) (a : Assertion) : Prop :=
  ∃ answer, engine a.query = .ok answer ∧ answer.errors = [] ∧ a.Allows (answer.data.getD .null)

/-- What an assertion comes to. -/
def decided (engine : QueryEngine) (index : Nat) (a : Assertion) : Except Failure Unit :=
  if a.isRecognized then a.outcome index (engine a.query) else a.verdict index .null

section One
variable {engine : QueryEngine} {index : Nat} {a : Assertion} {e : Failure}

theorem run_observing (query : String) (w : Workspace) :
    (ExceptT.run (m := StateM Workspace) (check.observing (Step.ask engine query))).run w =
      (.ok (engine query), { w with asked := w.asked ++ [query] }) := by
  have hrun := Step.run_ask engine query w
  show (Except.ok ((Step.ask engine query).run.run w).1, ((Step.ask engine query).run.run w).2) = _
  rw [hrun]

/-- **Checking an assertion** notes its query, if that is put, and changes nothing else. -/
theorem run_check (w : Workspace) : (a.check engine index).run.run w =
    (a.decided engine index, { w with asked := w.asked ++ queries [a] }) := by
  obtain ⟨kind, query⟩ := a
  unfold check
  cases kind with
  | unrecognized name =>
    dsimp only
    rw [Step.run_ofExcept]
    show _ = (_, { w with asked := w.asked ++ [] })
    rw [List.append_nil]
    rfl
  | emptyResult =>
    dsimp only
    rw [Step.run_bind, run_observing]
    exact Step.run_ofExcept _ _
  | nonEmptyResult =>
    dsimp only
    rw [Step.run_bind, run_observing]
    exact Step.run_ofExcept _ _

theorem failsWith_iff : a.FailsWith engine index e ↔ a.decided engine index = .error e := by
  unfold FailsWith
  simp only [run_check]
  exact ⟨fun h => h default, fun h _ => h⟩

theorem outcome_eq_ok_iff {answer : Except Failure QueryResponse} :
    a.outcome index answer = .ok () ↔ ∃ r, answer = .ok r ∧ r.errors = [] ∧
      a.verdict index (r.data.getD .null) = .ok () := by
  unfold outcome
  constructor
  · intro h
    cases hdata : answer.bind QueryResponse.toData with
    | error e =>
      rw [hdata] at h
      cases h
    | ok data =>
      rw [hdata] at h
      obtain ⟨r, hr, hdata⟩ := bind_eq_ok_iff.mp hdata
      obtain ⟨herrors, rfl⟩ := QueryResponse.toData_eq_ok_iff.mp hdata
      exact ⟨r, hr, herrors, h⟩
  · rintro ⟨r, rfl, herrors, h⟩
    have hdata : (Except.ok r : Except Failure _).bind QueryResponse.toData =
        .ok (r.data.getD .null) := QueryResponse.toData_eq_ok_iff.mpr ⟨herrors, rfl⟩
    rw [hdata]
    exact h

theorem verdict_eq_ok_iff {data : Json} : a.verdict index data = .ok () ↔ a.Allows data := by
  unfold verdict Allows
  cases a.kind with
  | emptyResult => cases hasResults data <;> simp
  | nonEmptyResult => cases hasResults data <;> simp
  | unrecognized name => exact iff_of_false (by rintro ⟨⟩) id

theorem isRecognized_of_allows {data : Json} (h : a.Allows data) : a.isRecognized = true := by
  unfold isRecognized
  unfold Allows at h
  cases hkind : a.kind with
  | emptyResult => rfl
  | nonEmptyResult => rfl
  | unrecognized name =>
    rw [hkind] at h
    exact h.elim

theorem decided_eq_ok_iff : a.decided engine index = .ok () ↔ a.Holds engine := by
  unfold decided
  split
  · rw [outcome_eq_ok_iff]
    simp only [verdict_eq_ok_iff]
    rfl
  · rename_i hunknown
    rw [verdict_eq_ok_iff]
    refine iff_of_false (fun h => hunknown (isRecognized_of_allows h)) ?_
    rintro ⟨answer, -, -, h⟩
    exact hunknown (isRecognized_of_allows h)

/-- **An assertion passes if it holds.** -/
theorem passes_iff : a.Passes engine ↔ a.Holds engine := by
  unfold Passes
  simp only [run_check, decided_eq_ok_iff]
  exact ⟨fun h => h 0 default, fun h _ _ => h⟩

theorem passes_or_fails (engine : QueryEngine) (a : Assertion) :
    a.Passes engine ∨ ∀ index, ∃ e, a.FailsWith engine index e := by
  by_cases hholds : a.Holds engine
  · exact Or.inl (passes_iff.mpr hholds)
  · refine Or.inr fun index => ?_
    cases hdecided : a.decided engine index with
    | ok u => exact absurd (decided_eq_ok_iff.mp hdecided) hholds
    | error e => exact ⟨e, failsWith_iff.mpr hdecided⟩

end One

/-! ### Assertions in a row -/

theorem takeUp_eq_nil {limit : Nat} {underWay waiting : Indexed}
    (h : (takeUp limit underWay waiting).1 = []) : underWay ++ waiting = [] := by
  obtain ⟨hunderWay, hroom⟩ := List.append_eq_nil_iff.mp h
  subst hunderWay
  rcases List.take_eq_nil_iff.mp hroom with hzero | hwaiting
  · rw [List.length_nil] at hzero
    omega
  · exact hwaiting

/-- Checks assertions one after the other. The first one has the given index. -/
def oneByOne (engine : QueryEngine) (start : Nat) (as : List Assertion) : Step Unit :=
  (as.zipIdx start).forM fun q => q.1.check engine q.2

theorem queries_append (as bs : List Assertion) :
    queries (as ++ bs) = queries as ++ queries bs := by
  unfold queries
  rw [List.filter_append, List.map_append]

section Row
variable {engine : QueryEngine} {start : Nat} {w : Workspace} {a : Assertion} {e : Failure}
  {as before rest after : List Assertion}

/-- **Many at a time, or one after the other**: assertions under way are answered in their order. By
induction on how many are left. -/
theorem checkAll_eq_forM {limit fuel : Nat} {underWay waiting : Indexed}
    (h : (underWay ++ waiting).length ≤ fuel) :
    checkAll engine limit fuel underWay waiting =
      (underWay ++ waiting).forM fun q => q.1.check engine q.2 := by
  induction fuel generalizing underWay waiting with
  | zero =>
    rw [List.length_eq_zero_iff.mp (Nat.le_zero.mp h)]
    rfl
  | succ fuel ih =>
    unfold checkAll
    rcases htake : takeUp limit underWay waiting with ⟨_ | ⟨⟨a, index⟩, underWay'⟩, waiting'⟩
    · rw [takeUp_eq_nil (congrArg Prod.fst htake)]
      rfl
    · have happend := takeUp_append limit underWay waiting
      rw [htake] at happend
      rw [← happend] at h ⊢
      dsimp only
      rw [ih (Nat.le_of_succ_le_succ h)]
      rfl

theorem run_stage (engine : QueryEngine) (parallelism : Nat) (w : Workspace) :
    (stage engine parallelism).run.run w =
      (oneByOne engine 0 w.buffer.request.assertions).run.run w := by
  show (checkAll engine parallelism w.buffer.request.assertions.length []
    w.buffer.request.assertions.zipIdx).run.run w = _
  rw [checkAll_eq_forM (by rw [List.nil_append, List.length_zipIdx])]
  rfl

theorem run_oneByOne_cons : (oneByOne engine start (a :: rest)).run.run w =
    match a.decided engine start with
    | .ok _ => (oneByOne engine (start + 1) rest).run.run { w with asked := w.asked ++ queries [a] }
    | .error e => (.error e, { w with asked := w.asked ++ queries [a] }) := by
  show (a.check engine start >>= fun _ => oneByOne engine (start + 1) rest).run.run w = _
  rw [Step.run_bind, run_check]
  cases a.decided engine start <;> rfl

/-- **Assertions that pass** put their queries, and the rest are checked. -/
theorem run_oneByOne_of_passes (h : ∀ a ∈ as, a.Passes engine) :
    (oneByOne engine start (as ++ rest)).run.run w =
      (oneByOne engine (start + as.length) rest).run.run
        { w with asked := w.asked ++ queries as } := by
  induction as generalizing start w with
  | nil =>
    show _ = StateT.run (ExceptT.run _) { w with asked := w.asked ++ [] }
    rw [List.append_nil]
    rfl
  | cons a as ih =>
    obtain ⟨ha, has⟩ := List.forall_mem_cons.mp h
    have hdecided : a.decided engine start = .ok () := decided_eq_ok_iff.mpr (passes_iff.mp ha)
    rw [List.cons_append, run_oneByOne_cons, hdecided]
    dsimp only
    rw [ih has, List.append_assoc, ← queries_append, List.length_cons, Nat.add_right_comm]
    rfl

theorem run_oneByOne_of_all_pass (h : ∀ a ∈ as, a.Passes engine) :
    (oneByOne engine start as).run.run w = (.ok (), { w with asked := w.asked ++ queries as }) := by
  have hrun : (oneByOne engine start (as ++ [])).run.run w = _ := run_oneByOne_of_passes h
  rw [List.append_nil] at hrun
  exact hrun

/-- **The first assertion that fails** puts its query, and no other is checked. -/
theorem run_oneByOne_of_failsWith (h : ∀ b ∈ before, b.Passes engine)
    (ha : a.FailsWith engine (start + before.length) e) :
    (oneByOne engine start (before ++ a :: after)).run.run w =
      (.error e, { w with asked := w.asked ++ queries (before ++ [a]) }) := by
  rw [run_oneByOne_of_passes h, run_oneByOne_cons, failsWith_iff.mp ha]
  dsimp only
  rw [List.append_assoc, ← queries_append]

theorem all_pass_or_first_fails (engine : QueryEngine) (as : List Assertion) :
    (∀ a ∈ as, a.Passes engine) ∨ ∃ before a after e, as = before ++ a :: after ∧
      (∀ b ∈ before, b.Passes engine) ∧ a.FailsWith engine before.length e := by
  have hsplit : (∀ a ∈ as, a.Passes engine) ∨ ∃ before a after, as = before ++ a :: after ∧
      (∀ b ∈ before, b.Passes engine) ∧ ∀ index, ∃ e, a.FailsWith engine index e := by
    induction as with
    | nil => exact Or.inl fun a ha => absurd ha List.not_mem_nil
    | cons a as ih =>
      rcases passes_or_fails engine a with ha | ha
      · rcases ih with has | ⟨before, b, after, rfl, hbefore, hb⟩
        · exact Or.inl (List.forall_mem_cons.mpr ⟨ha, has⟩)
        · exact Or.inr ⟨a :: before, b, after, rfl, List.forall_mem_cons.mpr ⟨ha, hbefore⟩, hb⟩
      · exact Or.inr ⟨[], a, as, rfl, fun b hb => absurd hb List.not_mem_nil, ha⟩
  rcases hsplit with hall | ⟨before, a, after, hsplit, hbefore, ha⟩
  · exact Or.inl hall
  · obtain ⟨e, he⟩ := ha before.length
    exact Or.inr ⟨before, a, after, e, hsplit, hbefore, he⟩

end Row

/-! ### The assertions of a request -/

section Request
variable {engine : QueryEngine} {parallelism : Nat} {w w' : Workspace} {e : Failure}

theorem run_stage_of_all_pass (h : ∀ a ∈ w.buffer.request.assertions, a.Passes engine) :
    (stage engine parallelism).run.run w =
      (.ok (), { w with asked := w.asked ++ queries w.buffer.request.assertions }) := by
  rw [run_stage, run_oneByOne_of_all_pass h]

theorem run_stage_of_failsWith {before after : List Assertion} {a : Assertion}
    (hsplit : w.buffer.request.assertions = before ++ a :: after)
    (h : ∀ b ∈ before, b.Passes engine) (ha : a.FailsWith engine before.length e) :
    (stage engine parallelism).run.run w =
      (.error e, { w with asked := w.asked ++ queries (before ++ [a]) }) := by
  rw [run_stage, hsplit]
  exact run_oneByOne_of_failsWith h (by rw [Nat.zero_add]; exact ha)

/-- **The assertions of a request succeed** if each of them passes by itself. -/
theorem run_stage_eq_ok_iff : (stage engine parallelism).run.run w = (.ok (), w') ↔
    (∀ a ∈ w.buffer.request.assertions, a.Passes engine) ∧
      w' = { w with asked := w.asked ++ queries w.buffer.request.assertions } := by
  constructor
  · intro hrun
    rcases all_pass_or_first_fails engine w.buffer.request.assertions with
      hall | ⟨before, a, after, e, hsplit, hbefore, ha⟩
    · rw [run_stage_of_all_pass hall] at hrun
      cases hrun
      exact ⟨hall, rfl⟩
    · rw [run_stage_of_failsWith hsplit hbefore ha] at hrun
      cases hrun
  · rintro ⟨hall, rfl⟩
    exact run_stage_of_all_pass hall

/-- **They fail** as the first of them does that fails by itself. -/
theorem run_stage_eq_error_iff : (stage engine parallelism).run.run w = (.error e, w') ↔
    ∃ before a after, w.buffer.request.assertions = before ++ a :: after ∧
      (∀ b ∈ before, b.Passes engine) ∧ a.FailsWith engine before.length e ∧
      w' = { w with asked := w.asked ++ queries (before ++ [a]) } := by
  constructor
  · intro hrun
    rcases all_pass_or_first_fails engine w.buffer.request.assertions with
      hall | ⟨before, a, after, e', hsplit, hbefore, ha⟩
    · rw [run_stage_of_all_pass hall] at hrun
      cases hrun
    · rw [run_stage_of_failsWith hsplit hbefore ha] at hrun
      cases hrun
      exact ⟨before, a, after, hsplit, hbefore, ha, rfl⟩
  · rintro ⟨before, a, after, hsplit, hbefore, ha, rfl⟩
    exact run_stage_of_failsWith hsplit hbefore ha

theorem succeeds_iff : ((stage engine parallelism).run.run w).1 = .ok () ↔
    ∀ a ∈ w.buffer.request.assertions, a.Passes engine :=
  ⟨fun h => (run_stage_eq_ok_iff.mp (Prod.ext h rfl)).1,
    fun h => congrArg Prod.fst (run_stage_of_all_pass h)⟩

/-- **Of an assertion and the opposite one**, for an answer without errors, one passes and the other
fails. -/
theorem one_of_two_passes {query : String} {answer : QueryResponse}
    (hanswer : engine query = .ok answer) (herrors : answer.errors = []) :
    let empty : Assertion := ⟨.emptyResult, query⟩
    let nonEmpty : Assertion := ⟨.nonEmptyResult, query⟩
    (empty.Passes engine ∧ ∀ index, ∃ e, nonEmpty.FailsWith engine index e) ∨
      (nonEmpty.Passes engine ∧ ∀ index, ∃ e, empty.FailsWith engine index e) := by
  intro empty nonEmpty
  have hholds : (empty.Holds engine ↔ hasResults (answer.data.getD .null) = false) ∧
      (nonEmpty.Holds engine ↔ hasResults (answer.data.getD .null) = true) := by
    constructor
    all_goals
      constructor
      · rintro ⟨answer', hanswer', -, h⟩
        cases hanswer.symm.trans hanswer'
        exact h
      · exact fun h => ⟨answer, hanswer, herrors, h⟩
  cases hresults : hasResults (answer.data.getD .null) with
  | false =>
    refine Or.inl ⟨passes_iff.mpr (hholds.1.mpr hresults), ?_⟩
    refine (passes_or_fails engine nonEmpty).resolve_left fun h => ?_
    exact absurd (hholds.2.mp (passes_iff.mp h)) (by rw [hresults]; decide)
  | true =>
    refine Or.inr ⟨passes_iff.mpr (hholds.2.mpr hresults), ?_⟩
    refine (passes_or_fails engine empty).resolve_left fun h => ?_
    exact absurd (hholds.1.mp (passes_iff.mp h)) (by rw [hresults]; decide)

end Request

/-- **The first assertion that fails decides.** With any number of them under way at a time, the
assertions of a request succeed if each passes by itself, and then the queries of all have been put.
Otherwise they fail as the first of them does that fails by itself, and no query behind it has been
put. Nothing but the queries put is changed. So success does not depend on the order of the
assertions. Of an assertion and the opposite one, one passes and the other fails, for an answer
without errors. -/
theorem decided_by_first_failing (engine : QueryEngine) (parallelism : Nat) (w : Workspace) :
    let as := w.buffer.request.assertions
    let run := (stage engine parallelism).run.run w
    (∀ w', run = (.ok (), w') ↔
      (∀ a ∈ as, a.Passes engine) ∧ w' = { w with asked := w.asked ++ queries as }) ∧
    (∀ e w', run = (.error e, w') ↔
      ∃ before a after, as = before ++ a :: after ∧ (∀ b ∈ before, b.Passes engine) ∧
        a.FailsWith engine before.length e ∧
        w' = { w with asked := w.asked ++ queries (before ++ [a]) }) ∧
    (∀ parallelism' w', w'.buffer.request.assertions.Perm as →
      (((stage engine parallelism').run.run w').1 = .ok () ↔ run.1 = .ok ())) ∧
    ∀ query answer, engine query = .ok answer → answer.errors = [] →
      let empty : Assertion := ⟨.emptyResult, query⟩
      let nonEmpty : Assertion := ⟨.nonEmptyResult, query⟩
      (empty.Passes engine ∧ ∀ index, ∃ e, nonEmpty.FailsWith engine index e) ∨
        (nonEmpty.Passes engine ∧ ∀ index, ∃ e, empty.FailsWith engine index e) := by
  intro as run
  refine ⟨fun w' => run_stage_eq_ok_iff, fun e w' => run_stage_eq_error_iff,
    fun parallelism' w' hperm => ?_, fun query answer => one_of_two_passes⟩
  rw [succeeds_iff]
  refine Iff.trans ?_ succeeds_iff.symm
  exact ⟨fun h a ha => h a (hperm.mem_iff.mpr ha), fun h a ha => h a (hperm.mem_iff.mp ha)⟩

/-- A request with an assertion that holds, the opposite one, and one that is not recognized. -/
def assertingThree : Request :=
  { Request.new "01ARZ3NDEKTSV4RRFFQ69G5FAV" "pod" with
    insert := [.node [("@id", .string "urn:a"), ("urn:name", .string "A")]]
    assertions := [⟨.nonEmptyResult, "q"⟩, ⟨.emptyResult, "q"⟩, ⟨.unrecognized "Any", "q"⟩] }

/-- The second assertion fails, so that the third is not looked at. In reverse order they do not
succeed either. -/
theorem decided_by_first_failing_of_three :
    let engine : QueryEngine := fun _ => .ok ⟨some (.array [.string "A"]), []⟩
    let w : Workspace := ⟨.openAt assertingThree default, [], 0⟩
    let reversed : Request :=
      { assertingThree with assertions := assertingThree.assertions.reverse }
    (stage engine 2).run.run w =
        (.error (notMet 1 "an empty" "q"), { w with asked := ["q", "q"] }) ∧
      ((stage engine 1).run.run ⟨.openAt reversed default, [], 0⟩).1 ≠ .ok () ∧
      ∀ index, ∃ e, FailsWith engine index ⟨.emptyResult, "q"⟩ e := by
  intro engine w reversed
  obtain ⟨-, hfails, hreorder, hopposite⟩ := decided_by_first_failing engine 2 w
  have hholds : Passes engine ⟨.nonEmptyResult, "q"⟩ := passes_iff.mpr ⟨_, rfl, rfl, rfl⟩
  have hrun : (stage engine 2).run.run w =
      (.error (notMet 1 "an empty" "q"), { w with asked := ["q", "q"] }) :=
    (hfails _ _).mpr ⟨[_], ⟨.emptyResult, "q"⟩, [_], rfl, List.forall_mem_singleton.mpr hholds,
      failsWith_iff.mpr rfl, rfl⟩
  refine ⟨hrun, fun hok => ?_, ?_⟩
  · have hsucceeds := (hreorder 1 _ (List.reverse_perm _)).mp hok
    rw [hrun] at hsucceeds
    cases hsucceeds
  · rcases hopposite "q" _ rfl rfl with ⟨-, hother⟩ | ⟨-, hfailing⟩
    · obtain ⟨e, he⟩ := hother 0
      cases (hholds 0 w).symm.trans (he w)
    · exact hfailing

end GraphLedger.Assertion
