import GraphLedger.Report

/-!
# The outbox

For every request one event is published. The outbox keeps events for its subscriber in a ring: if
the subscriber falls behind, the oldest events are dropped, and their number is told. Without a
subscriber events are lost.
-/

namespace GraphLedger

/-- What is published about a request. -/
structure Event where
  podId : String
  report : Report
  deriving DecidableEq, Inhabited

/-- The events that wait for the subscriber, and how many were dropped before them. -/
structure Outbox where
  capacity : Nat
  subscribed : Bool
  waiting : List Event
  missed : Nat
  deriving DecidableEq, Inhabited

namespace Outbox

/-- The number of events that a ring has room for if nothing else is said. -/
def defaultCapacity : Nat := 256

/-- The least power of two that is not below a number. -/
def powerAtLeast (n : Nat) : Nat := if n ≤ 1 then 1 else Nat.pow 2 (Nat.log2 (n - 1) + 1)

/-- An outbox with room for a number of events. -/
def new (capacity : Nat) (subscribed : Bool) : Outbox := ⟨powerAtLeast capacity, subscribed, [], 0⟩

/-- Publishes an event. -/
def publish (o : Outbox) (e : Event) : Outbox :=
  if !o.subscribed then o
  else
    let waiting := o.waiting ++ [e]
    let surplus := waiting.length - o.capacity
    { o with waiting := waiting.drop surplus, missed := o.missed + surplus }

/-- The outbox after the subscriber has received what waited. -/
def received (o : Outbox) : Outbox := { o with waiting := [], missed := 0 }

end Outbox

end GraphLedger
