import GraphLedger.Json.Basic
import GraphLedger.Toml.Fault

/-!
# Tables of TOML

A document fills a tree of tables. A table comes to be by its header, on the way to the header of
another table, or on the way of a dotted key. The header of a table may be given once; one that was
on the way of a header may still get its own, and one on the way of a dotted key is only filled by
dotted keys. In a list of tables the last one is meant.
-/

namespace GraphLedger.Toml

/-- How a table came to be. -/
inductive Origin where
  | header
  | implied
  | dotted
  deriving DecidableEq, Repr

/-- What a key stands for. Of a list of tables, the last one is given by its entries. -/
inductive Node where
  | value (v : Json)
  | table (origin : Origin) (entries : List (String × Node))
  | tables (before : List (List (String × Node))) (last : List (String × Node))

/-- The entries of a table. -/
abbrev Entries := List (String × Node)

/-! ### As JSON -/

mutual

/-- What a key stands for, as JSON. -/
def Node.toJson : Node → Json
  | .value v => v
  | .table _ es => .object (entriesToJson es)
  | .tables before last => .array (tablesToJson before ++ [.object (entriesToJson last)])

/-- Entries as fields. -/
def entriesToJson : List (String × Node) → List (String × Json)
  | [] => []
  | (k, n) :: es => (k, n.toJson) :: entriesToJson es

/-- Tables as objects. -/
def tablesToJson : List (List (String × Node)) → List Json
  | [] => []
  | es :: rest => .object (entriesToJson es) :: tablesToJson rest

end

namespace Entries

/-! ### Finding a table -/

/-- Changes what a key stands for. -/
def alter (key : String) (f : Option Node → Except Fault Node) : Entries → Except Fault Entries
  | [] => (f none).map fun n => [(key, n)]
  | (k, n) :: es =>
    if k = key then (f (some n)).map fun n => (k, n) :: es
    else (alter key f es).map fun es => (k, n) :: es

/-- Changes the table that a path leads to, on the way of a dotted key or of a header. -/
def within (dotted : Bool) : List String → (Origin → Entries → Except Fault Entries) → Origin →
    Entries → Except Fault Entries
  | [], f, origin, es => f origin es
  | key :: path, f, _, es =>
    alter key (fun found =>
      match found with
      | none =>
        let origin := if dotted then Origin.dotted else .implied
        (within dotted path f origin []).map (.table origin)
      | some (.value _) => .error (.notTable key)
      | some (.tables before last) => (within dotted path f .header last).map (.tables before)
      | some (.table origin es) =>
        if dotted && origin = .header then .error (.duplicateKey key)
        else (within dotted path f origin es).map (.table origin)) es

/-! ### Definitions -/

/-- Gives a key its value. -/
def addValue (key : String) (v : Json) : Entries → Except Fault Entries :=
  alter key fun found =>
    match found with
    | none => .ok (.value v)
    | some _ => .error (.duplicateKey key)

/-- Gives a dotted key its value: the keys of the way, and the last one. -/
def define (path : List String) (key : String) (v : Json) : Entries → Except Fault Entries :=
  within true path (fun origin es =>
    if (origin = .dotted) = path.isEmpty then .error (.duplicateKey key) else addValue key v es)
    .header

/-- Opens the table of a header. -/
def openTable (path : List String) (key : String) : Entries → Except Fault Entries :=
  within false path (fun _ es =>
    alter key (fun found =>
      match found with
      | none => .ok (.table .header [])
      | some (.table .implied es) => .ok (.table .header es)
      | some _ => .error (.duplicateKey key)) es) .header

/-- Opens one more table in the list of a header. -/
def openNext (path : List String) (key : String) : Entries → Except Fault Entries :=
  within false path (fun _ es =>
    alter key (fun found =>
      match found with
      | none => .ok (.tables [] [])
      | some (.tables before last) => .ok (.tables (before ++ [last]) [])
      | some _ => .error (.duplicateKey key)) es) .header

end Entries

end GraphLedger.Toml
