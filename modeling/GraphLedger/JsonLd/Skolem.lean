import GraphLedger.Ulid
import GraphLedger.Vocabulary
import GraphLedger.JsonLd.Context

/-!
# Names for blank nodes

A node without an IRI, or with a label that is local to its document, gets a minted IRI. A label
gets the same IRI wherever it occurs in one document. The identifiers come from a supply that
never gives one twice.
-/

namespace GraphLedger.JsonLd

/-- The supply of identifiers and the IRIs that labels have got. -/
structure Skolem where
  next : Nat
  labels : List (String × String)
  deriving DecidableEq, Inhabited, Repr

namespace Skolem

/-- The supply before the first label. -/
def start (next : Nat) : Skolem := ⟨next, []⟩

/-- The IRI minted for a number. -/
def minted (n : Nat) : String :=
  Vocabulary.skolemStart ++ String.ofList ((Ulid.encode n).toList.map Char.toLower)

end Skolem

/-- A computation that names nodes from a supply, and that may fail. -/
abbrev Naming := ExceptT Fault (StateM Skolem)

/-- A new IRI. -/
def mint : Naming String := do
  let s ← get
  set { s with next := s.next + 1 }
  return Skolem.minted s.next

/-- The IRI of a label, minted at its first occurrence. -/
def labelled (label : String) : Naming String := do
  match (← get).labels.lookup label with
  | some iri => return iri
  | none =>
    let iri ← mint
    modify fun s => { s with labels := (label, iri) :: s.labels }
    return iri

/-- The IRI of a node with an identifier. -/
def nodeIri (c : Context) (id : String) : Naming String :=
  match id.toList with
  | '_' :: ':' :: label => labelled (String.ofList label)
  | _ => return c.expandReference id

end GraphLedger.JsonLd
