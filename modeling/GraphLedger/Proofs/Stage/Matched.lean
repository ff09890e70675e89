import GraphLedger.Proofs.Stage.Sources

/-! # Matching too little or too much

The templates of a request stand for nodes in the answer to its query, the wildcard for all of them.
If the answer is without results, the request fails for that, whatever its entries are. Otherwise
all entries are expanded, deletions before insertions, and it fails for a fault in a template if
there is one. Only then the nodes are counted that templates stand for, over both lists together;
entries that are nodes themselves do not count. All this comes before anything is added, and the
query is put once before it.

* `Matched`: the number of nodes for which the templates among entries stand; `matched_iff`.
* `Fruitless`: an answer without results for a request with templates.
* `expandRequest_eq_error_iff`: for which number of nodes a request fails.
* `matches_classified`: when a request fails for what it matches, and what it leaves then. -/

namespace GraphLedger

open JsonLd

namespace Materialize

/-! ### Counting -/

/-- **The number of nodes that the templates among entries stand for**, given the answer to the
query. Each of them must stand for nodes, though these may be none; entries that are nodes
do not count. -/
inductive Matched (answer : Option Json) : List Entry → Nat → Prop
  | nil : Matched answer [] 0
  | node {es : List Entry} {n : Nat} (fs : Json.Fields) :
      Matched answer es n → Matched answer (.node fs :: es) n
  | template {text : String} {nodes : List Json.Fields} {es : List Entry} {n : Nat} :
      StandsFor answer (.template text) nodes → Matched answer es n →
      Matched answer (.template text :: es) (nodes.length + n)

section Matched
variable {answer : Option Json} {es es' : List Entry} {n : Nat}

theorem expandEntry_of_standsFor {text : String} {nodes : List Json.Fields}
    (h : StandsFor answer (.template text) nodes) :
    expandEntry answer (.template text) = .ok ⟨nodes, nodes.length⟩ := by
  cases h with
  | wildcard data hwildcard =>
    rw [expandEntry, templateNodes, if_pos hwildcard]
    rfl
  | template hwildcard hnodes =>
    rw [expandEntry, templateNodes, if_neg (by rw [hwildcard]; exact Bool.false_ne_true), hnodes]
    rfl

theorem templated_of_expandEntry {text : String} {x : Expanded}
    (h : expandEntry answer (.template text) = .ok x) : x.templated = x.nodes.length := by
  rw [expandEntry] at h
  cases hnodes : templateNodes text answer with
  | error e =>
    rw [hnodes] at h
    cases h
  | ok nodes =>
    rw [hnodes] at h
    cases h
    rfl

/-- **Entries are expanded** if there is a number of nodes for their templates, and this number is
counted. -/
theorem matched_iff : Matched answer es n ↔ ∃ x, expand answer es = .ok x ∧ x.templated = n := by
  constructor
  · intro h
    induction h with
    | nil => exact ⟨⟨[], 0⟩, rfl, rfl⟩
    | node fs _ ih =>
      obtain ⟨x, hx, rfl⟩ := ih
      refine ⟨⟨[fs] ++ x.nodes, 0 + x.templated⟩, ?_, Nat.zero_add _⟩
      rw [expand, hx]
      rfl
    | @template text nodes es n hstands _ ih =>
      obtain ⟨x, hx, rfl⟩ := ih
      refine ⟨⟨nodes ++ x.nodes, nodes.length + x.templated⟩, ?_, rfl⟩
      rw [expand, hx, expandEntry_of_standsFor hstands]
      rfl
  · rintro ⟨x, hx, rfl⟩
    induction es generalizing x with
    | nil =>
      cases hx
      exact .nil
    | cons e es ih =>
      rw [expand] at hx
      obtain ⟨first, hfirst, hx⟩ := bind_eq_ok_iff.mp hx
      obtain ⟨rest, hrest, hx⟩ := bind_eq_ok_iff.mp hx
      cases hx
      cases e with
      | node fs =>
        cases hfirst
        refine .node fs ?_
        show Matched answer es (0 + rest.templated)
        rw [Nat.zero_add]
        exact ih rest hrest
      | template text =>
        show Matched answer _ (first.templated + rest.templated)
        rw [templated_of_expandEntry hfirst]
        exact .template (standsFor_of_expandEntry hfirst) (ih rest hrest)

theorem matched_append : Matched answer (es ++ es') n ↔
    ∃ m m', Matched answer es m ∧ Matched answer es' m' ∧ m + m' = n := by
  constructor
  · intro h
    induction es generalizing n with
    | nil => exact ⟨0, n, .nil, h, Nat.zero_add n⟩
    | cons e es ih =>
      cases h with
      | node fs h =>
        obtain ⟨m, m', hm, hm', rfl⟩ := ih h
        exact ⟨m, m', .node fs hm, hm', rfl⟩
      | template hstands h =>
        obtain ⟨m, m', hm, hm', rfl⟩ := ih h
        exact ⟨_, m', .template hstands hm, hm', Nat.add_assoc ..⟩
  · rintro ⟨m, m', hm, hm', rfl⟩
    induction hm with
    | nil =>
      rw [Nat.zero_add]
      exact hm'
    | node fs _ ih => exact .node fs ih
    | template hstands _ ih =>
      rw [Nat.add_assoc]
      exact .template hstands ih

end Matched

/-! ### Expanding a request -/

/-- **An answer without results** for a request with templates. -/
def Fruitless (r : Request) (answer : Option Json) : Prop :=
  r.hasTemplates = true ∧ ∃ data, answer = some data ∧ hasResults data = false

/-- The failure of a request whose query is answered without results. -/
def nothingMatched (r : Request) : Failure :=
  .noMatches ("'with' query matched nothing: " ++ r.query.getD "")

section Request
variable {limits : Limits} {r : Request} {answer : Option Json} {e : Failure}

theorem checkMatches_of_fruitless (h : Fruitless r answer) :
    checkMatches r answer = .error (nothingMatched r) := by
  obtain ⟨htemplates, data, rfl, hresults⟩ := h
  rw [checkMatches, htemplates, hresults]
  rfl

theorem checkMatches_of_not_fruitless (h : ¬ Fruitless r answer) :
    checkMatches r answer = .ok () := by
  unfold checkMatches
  split
  · rfl
  · rename_i data
    split
    · rename_i hboth
      rw [Bool.and_eq_true, Bool.not_eq_true'] at hboth
      exact absurd ⟨hboth.1, data, rfl, hboth.2⟩ h
    · rfl

/-- **For what a request fails** when its entries are expanded: for an answer without results; else
for a fault in a template, which leaves it with a validation error; else for too many nodes. -/
theorem expandRequest_eq_error_iff (he : e.status ≠ .validationError) :
    expandRequest limits r answer = .error e ↔
      (Fruitless r answer ∧ e = nothingMatched r) ∨
      (¬ Fruitless r answer ∧ ∃ n, Matched answer (r.delete ++ r.insert) n ∧
        limits.maxTemplateResults < n ∧ e = .tooManyMatches n limits.maxTemplateResults) := by
  by_cases hfruitless : Fruitless r answer
  · have hfails : expandRequest limits r answer = .error (nothingMatched r) := by
      rw [expandRequest, checkMatches_of_fruitless hfruitless]
      rfl
    rw [hfails]
    constructor
    · intro h
      cases h
      exact Or.inl ⟨hfruitless, rfl⟩
    · rintro (⟨-, rfl⟩ | ⟨hno, -⟩)
      · rfl
      · exact absurd hfruitless hno
  · constructor
    · intro h
      refine Or.inr ⟨hfruitless, ?_⟩
      rw [expandRequest, checkMatches_of_not_fruitless hfruitless] at h
      rcases bind_eq_error_iff.mp h with h | ⟨-, -, h⟩
      · cases h
      rcases bind_eq_error_iff.mp h with hdeletes | ⟨deletes, hdeletes, h⟩
      · exact absurd (status_of_expand hdeletes) he
      rcases bind_eq_error_iff.mp h with hinserts | ⟨inserts, hinserts, h⟩
      · exact absurd (status_of_expand hinserts) he
      dsimp only at h
      split at h
      · rename_i hlimit
        cases h
        exact ⟨_, matched_append.mpr ⟨_, _, matched_iff.mpr ⟨deletes, hdeletes, rfl⟩,
          matched_iff.mpr ⟨inserts, hinserts, rfl⟩, rfl⟩, hlimit, rfl⟩
      · cases h
    · rintro (⟨hyes, -⟩ | ⟨-, n, hmatched, hlimit, rfl⟩)
      · exact absurd hyes hfruitless
      · obtain ⟨m, m', hm, hm', rfl⟩ := matched_append.mp hmatched
        obtain ⟨deletes, hdeletes, rfl⟩ := matched_iff.mp hm
        obtain ⟨inserts, hinserts, rfl⟩ := matched_iff.mp hm'
        rw [expandRequest, checkMatches_of_not_fruitless hfruitless, hdeletes, hinserts]
        exact if_pos hlimit

theorem prepared_eq_error_iff {engine : QueryEngine}
    (hanswer : Materialize.answer engine r = .ok answer) (he : e.status ≠ .validationError) :
    prepared engine limits r = .error e ↔ expandRequest limits r answer = .error e := by
  unfold prepared
  constructor
  · intro h
    rcases bind_eq_error_iff.mp h with h | ⟨data, hdata, h⟩
    · rw [hanswer] at h
      cases h
    rw [hanswer] at hdata
    cases hdata
    rcases bind_eq_error_iff.mp h with h | ⟨nodes, -, h⟩
    · exact h
    rcases bind_eq_error_iff.mp h with hc | ⟨c, -, h⟩
    · exact absurd (status_of_parse hc) he
    · cases h
  · intro h
    exact bind_eq_error_iff.mpr (Or.inr ⟨answer, hanswer, bind_eq_error_iff.mpr (Or.inl h)⟩)

end Request

/-! ### Runs -/

theorem asked_addNodes (c : Context) (deletes inserts : List Json.Fields) (w : Workspace) :
    ((addNodes c deletes inserts).run.run w).2.asked = w.asked := by
  rw [addNodes, naming_eq_drawing, Step.run_bind, Step.run_drawing]
  rcases (statements c deletes inserts).run.run (.start w.supply) with ⟨fault | ⟨ds, is⟩, s⟩
  · rfl
  · dsimp only [Except.mapError]
    rw [Step.run_bind, Step.run_addStatements]
    cases checkStatements ds with
    | error e => rfl
    | ok u =>
      dsimp only
      rw [Step.run_addStatements]
      cases checkStatements is <;> rfl

section Stage
variable {engine : QueryEngine} {loaders : List Loader} {limits : Limits} {answer : Option Json}
  {w : Workspace} {e : Failure}

theorem run_stage_of_valid (hr : w.buffer.request.fault? = none)
    (hentries : w.buffer.request.hasEntries = true) :
    (stage engine loaders limits).run.run w =
      (addExpanded engine limits w.buffer.request).run.run w := by
  have hrefs : w.buffer.request.hasRefs = false :=
    (one_source_of_valid hr).resolve_left (by rw [hentries]; decide)
  rw [run_stage_of_entries hrefs, run_addEntries, if_pos hentries,
    if_neg (by rw [query_of_valid hr]; exact Bool.false_ne_true)]

/-- **The query of a request** is put once, if it has one. -/
theorem asked_stage (hr : w.buffer.request.fault? = none)
    (hentries : w.buffer.request.hasEntries = true) :
    ((stage engine loaders limits).run.run w).2.asked =
      w.asked ++ w.buffer.request.query.toList := by
  rw [run_stage_of_valid hr hentries]
  cases hprepared : prepared engine limits w.buffer.request with
  | error e =>
    rw [run_addExpanded_of_error hprepared]
    rfl
  | ok plan =>
    obtain ⟨c, nodes, nodes'⟩ := plan
    rw [run_addExpanded hprepared, asked_addNodes]
    rfl

/-- **A failure that finds no fault with the request** comes of expanding its entries, and nothing
is done before but putting its query. -/
theorem run_stage_eq_error_iff (hr : w.buffer.request.fault? = none)
    (hentries : w.buffer.request.hasEntries = true)
    (hanswer : Materialize.answer engine w.buffer.request = .ok answer)
    (he : e.status ≠ .validationError) :
    (((stage engine loaders limits).run.run w).1 = .error e ↔
      expandRequest limits w.buffer.request answer = .error e) ∧
    (((stage engine loaders limits).run.run w).1 = .error e →
      ((stage engine loaders limits).run.run w).2 = asking w.buffer.request w) := by
  rw [run_stage_of_valid hr hentries, ← prepared_eq_error_iff hanswer he]
  cases hprepared : prepared engine limits w.buffer.request with
  | error e' =>
    rw [run_addExpanded_of_error hprepared]
    refine ⟨?_, fun _ => rfl⟩
    constructor <;> (intro h; cases h; rfl)
  | ok plan =>
    obtain ⟨c, nodes, nodes'⟩ := plan
    rw [run_addExpanded hprepared]
    have hnot : ((addNodes c nodes nodes').run.run (asking w.buffer.request w)).1 ≠ .error e := by
      intro hfails
      rcases addNodes_fails (Prod.ext hfails rfl) with
        ⟨-, hstatus⟩ | ⟨_, inserts, _, _, _, hinserts, _⟩
      · exact he hstatus
      · exact he (status_of_checkStatements hinserts)
    exact ⟨⟨fun h => absurd h hnot, fun h => by cases h⟩, fun h => absurd h hnot⟩

/-- **When a request fails for what it matches.** Let a request be one that can be processed, with
entries, and let its query be answered without errors if it has one. It fails without matches if it
has templates and the answer is without results. Otherwise it fails with too many matches if each of
its templates stands for nodes and these are more than the limit, all together; its other entries do
not count. In both cases the buffer is left as it was. The query is put once, if there is one,
whatever comes of it. -/
theorem matches_classified (hr : w.buffer.request.fault? = none)
    (hentries : w.buffer.request.hasEntries = true)
    (hanswer : Materialize.answer engine w.buffer.request = .ok answer) :
    let r := w.buffer.request
    let run := (stage engine loaders limits).run.run w
    (∀ m, run.1 = .error (.noMatches m) ↔
      Fruitless r answer ∧ m = "'with' query matched nothing: " ++ r.query.getD "") ∧
    (∀ count limit, run.1 = .error (.tooManyMatches count limit) ↔
      ¬ Fruitless r answer ∧ Matched answer (r.delete ++ r.insert) count ∧
        limit = limits.maxTemplateResults ∧ limit < count) ∧
    (∀ e, run.1 = .error e → e.status = .noMatches ∨ e.status = .tooManyMatches →
      run.2.buffer = w.buffer) ∧
    run.2.asked = w.asked ++ r.query.toList := by
  intro r run
  refine ⟨fun m => ?_, fun count limit => ?_, fun e hfails hstatus => ?_, ?_⟩
  · have he : (Failure.noMatches m).status ≠ .validationError := by
      rw [Failure.status]
      decide
    rw [(run_stage_eq_error_iff hr hentries hanswer he).1, expandRequest_eq_error_iff he]
    constructor
    · rintro (⟨hfruitless, hm⟩ | ⟨-, n, -, -, h⟩)
      · exact ⟨hfruitless, Failure.noMatches.inj hm⟩
      · cases h
    · rintro ⟨hfruitless, rfl⟩
      exact Or.inl ⟨hfruitless, rfl⟩
  · have he : (Failure.tooManyMatches count limit).status ≠ .validationError := by
      rw [Failure.status]
      decide
    rw [(run_stage_eq_error_iff hr hentries hanswer he).1, expandRequest_eq_error_iff he]
    constructor
    · rintro (⟨-, h⟩ | ⟨hfruitful, n, hmatched, hlimit, h⟩)
      · cases h
      · cases h
        exact ⟨hfruitful, hmatched, rfl, hlimit⟩
    · rintro ⟨hfruitful, hmatched, rfl, hlimit⟩
      exact Or.inr ⟨hfruitful, count, hmatched, hlimit, rfl⟩
  · have he : e.status ≠ .validationError := by
      rcases hstatus with hstatus | hstatus <;> rw [hstatus] <;> decide
    have hleft : ((stage engine loaders limits).run.run w).2 = asking w.buffer.request w :=
      (run_stage_eq_error_iff hr hentries hanswer he).2 hfails
    show ((stage engine loaders limits).run.run w).2.buffer = w.buffer
    rw [hleft]
    rfl
  · exact asked_stage hr hentries

/-- A request to delete all that its query finds, and to insert one node. -/
def replacingFound : Request :=
  { Request.new "01ARZ3NDEKTSV4RRFFQ69G5FAV" "pod" with
    query := some "people"
    delete := [.template "*"]
    insert := [.node [("@id", .string "urn:c"), ("urn:name", .string "C")]] }

/-- The two nodes found are one too many. The node inserted does not count. -/
theorem matches_classified_of_two :
    let found : Json := .array
      [.object [("@id", .string "urn:a"), ("urn:name", .string "A")],
        .object [("@id", .string "urn:b"), ("urn:name", .string "B")]]
    let engine : QueryEngine := fun _ => .ok ⟨some found, []⟩
    let w : Workspace := ⟨.openAt replacingFound default, [], 0⟩
    let run := (stage engine [] ⟨1, 1⟩).run.run w
    replacingFound.fault? = none ∧ replacingFound.hasEntries = true ∧
      Materialize.answer engine replacingFound = .ok (some found) ∧
      run.1 = .error (.tooManyMatches 2 1) ∧ run.2.buffer = w.buffer ∧
      run.2.asked = ["people"] := by
  intro found engine w run
  have hr : w.buffer.request.fault? = none := by decide +kernel
  have hentries : w.buffer.request.hasEntries = true := rfl
  have hanswer : Materialize.answer engine w.buffer.request = .ok (some found) := rfl
  obtain ⟨-, hmany, hbuffer, hasked⟩ :=
    @matches_classified engine [] ⟨1, 1⟩ (some found) w hr hentries hanswer
  have hfruitful : ¬ Fruitless w.buffer.request (some found) := by
    rintro ⟨-, data, hdata, hresults⟩
    cases hdata
    exact absurd hresults (by decide)
  have hmatched : Matched (some found) (w.buffer.request.delete ++ w.buffer.request.insert) 2 :=
    .template (.wildcard found (by decide +kernel)) (.node _ .nil)
  have hfails : run.1 = .error (.tooManyMatches 2 1) :=
    (hmany 2 1).mpr ⟨hfruitful, hmatched, rfl, by decide⟩
  exact ⟨hr, hentries, hanswer, hfails, hbuffer _ hfails (Or.inr rfl), hasked⟩

end Stage

end Materialize

end GraphLedger
