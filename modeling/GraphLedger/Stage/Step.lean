import GraphLedger.Buffer
import GraphLedger.JsonLd.Skolem
import GraphLedger.Query

/-!
# Steps

The steps of processing a request before it is stored work on the buffer of the request. They may
put queries, which are noted, and draw on the supply of identifiers. A step that fails leaves the
buffer as it is by then.
-/

namespace GraphLedger

/-- What the steps of a request share. -/
structure Workspace where
  buffer : Buffer
  asked : List String
  supply : Nat
  deriving DecidableEq, Inhabited

/-- A step. -/
abbrev Step := ExceptT Failure (StateM Workspace)

namespace Step

/-- The failure of a step that only computes. -/
def ofExcept {α : Type} : Except Failure α → Step α
  | .ok a => pure a
  | .error e => throw e

/-- The request. -/
def request : Step Request := return (← get).buffer.request

/-- The buffer. -/
def buffer : Step Buffer := return (← get).buffer

/-- Puts a query. -/
def ask (engine : QueryEngine) (query : String) : Step QueryResponse := do
  modify fun w => { w with asked := w.asked ++ [query] }
  ofExcept (engine query)

/-- Adds records to the buffer. -/
def add (rs : List Record) : Step Unit := modify fun w => { w with buffer := w.buffer.add rs }

/-- Does what draws on the supply. -/
def drawing {α : Type} (load : Nat → Except Failure α × Nat) : Step α := do
  let (r, next) := load (← get).supply
  modify fun w => { w with supply := next }
  ofExcept r

/-- Names nodes, with labels of its own. -/
def naming {α : Type} (t : JsonLd.Naming α) : Step α :=
  drawing fun next =>
    match t.run (.start next) with
    | (.ok a, s) => (.ok a, s.next)
    | (.error e, s) => (.error e.toFailure, s.next)

end Step

end GraphLedger
