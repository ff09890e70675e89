import GraphLedger.Stage.Step

/-!
# Assertions

The assertions of a request are checked until one fails, with a bounded number of them under way. As
queries are answered at once, they are answered in the order of the assertions. An assertion puts
its query and holds if the answer is empty, or is not empty, as the assertion says.
-/

namespace GraphLedger.Assertion

/-- The failure of an assertion whose query has no answer. -/
def queryFailure (index : Nat) (e : Failure) : Failure :=
  let detail := match e with
    | .query m => m
    | e => e.message
  .query ("assertion #" ++ toString index ++ " query is malformed: " ++ detail)

/-- The failure of an assertion that does not hold. -/
def notMet (index : Nat) (expected query : String) : Failure :=
  .assertionFailed ("assertion #" ++ toString index ++ " expected " ++ expected
    ++ " result for query '" ++ query ++ "'")

/-- Whether an assertion holds for the data of an answer. -/
def verdict (index : Nat) (a : Assertion) (data : Json) : Except Failure Unit :=
  match a.kind with
  | .emptyResult => if hasResults data then .error (notMet index "an empty" a.query) else .ok ()
  | .nonEmptyResult =>
    if hasResults data then .ok () else .error (notMet index "a non-empty" a.query)
  | .unrecognized name =>
    .error (.validation ("assertion #" ++ toString index ++ " has unrecognized type '" ++ name
      ++ "'"))

/-- The outcome of an assertion by the answer to its query. -/
def outcome (index : Nat) (a : Assertion) (answer : Except Failure QueryResponse) :
    Except Failure Unit :=
  match answer.bind QueryResponse.toData with
  | .ok data => a.verdict index data
  | .error e => .error (queryFailure index e)

/-- Checks an assertion; the query of one that is not recognized is not put. -/
def check (engine : QueryEngine) (index : Nat) (a : Assertion) : Step Unit :=
  match a.kind with
  | .unrecognized _ => Step.ofExcept (a.verdict index .null)
  | _ => do
    let answer ← observing (Step.ask engine a.query)
    Step.ofExcept (a.outcome index answer)
where
  /-- The outcome of a step, which does not fail then. -/
  observing {α : Type} (s : Step α) : Step (Except Failure α) :=
    fun w => ((Except.ok (s w).1), (s w).2)

/-- Assertions with their indices. -/
abbrev Indexed := List (Assertion × Nat)

/-- Takes up assertions that wait as long as fewer than the limit are under way; those under way and
those that still wait then. At least one is always taken up. -/
def takeUp (limit : Nat) (underWay waiting : Indexed) : Indexed × Indexed :=
  let room := max limit 1 - underWay.length
  (underWay ++ waiting.take room, waiting.drop room)

/-- Checks assertions, given those under way and those that wait. The one that has been under way
longest is answered first; when one fails, no other is. The fuel is the number of all of them. -/
def checkAll (engine : QueryEngine) (limit : Nat) : Nat → Indexed → Indexed → Step Unit
  | 0, _, _ => return
  | fuel + 1, underWay, waiting =>
    match takeUp limit underWay waiting with
    | ((a, index) :: underWay, waiting) => do
      a.check engine index
      checkAll engine limit fuel underWay waiting
    | ([], _) => return

/-- Checks the assertions of the request, with at most so many under way at a time. -/
def stage (engine : QueryEngine) (parallelism : Nat) : Step Unit := do
  let as := (← Step.request).assertions
  checkAll engine parallelism as.length [] as.zipIdx

end GraphLedger.Assertion
