import GraphLedger.Json.Basic

/-!
# Typed values in JSON

How a value of a type with fixed fields is written in JSON: as an object, in which other fields do
not matter and no field may occur twice, or as an array of the fields in the order of their
declaration, which may end early and must not be longer. A decoder answers nothing when a value does
not fit.
-/

namespace GraphLedger.Json

/-- The fields of a typed value, in the order of their declaration, each under its possible names.
-/
abbrev Layout := List (List String)

/-- The values of one field: none if it is absent, and no answer if it occurs more than once. -/
def occurrence? (fs : Fields) (names : List String) : Option (Option Json) :=
  match fs.filter fun f => names.contains f.1 with
  | [] => some none
  | [f] => some (some f.2)
  | _ => none

/-- The values of the fields of a typed value, an absent one as none. -/
def fieldsOf? (layout : Layout) : Json → Option (List (Option Json))
  | .object fs => layout.mapM (occurrence? fs)
  | .array items =>
    if items.length ≤ layout.length then
      some (items.map some ++ List.replicate (layout.length - items.length) none)
    else none
  | _ => none

/-! ### Fields -/

/-- A field that must be present. -/
def required {α : Type} (decode : Json → Option α) : Option Json → Option α
  | some v => decode v
  | none => none

/-- A field that has a default. -/
def orDefault {α : Type} (default : α) (decode : Json → Option α) : Option Json → Option α
  | some v => decode v
  | none => some default

/-- A field that may be absent or null. -/
def optional {α : Type} (decode : Json → Option α) : Option Json → Option (Option α)
  | none => some none
  | some .null => some none
  | some v => (decode v).map some

/-! ### Plain types -/

/-- A string. -/
def decodeString : Json → Option String
  | .string s => some s
  | _ => none

/-- A truth value. -/
def decodeBool : Json → Option Bool
  | .bool b => some b
  | _ => none

/-- A count: a whole number from 0 to `2 ^ 64 - 1`. -/
def decodeCount : Json → Option Nat
  | .int n => if 0 ≤ n && n < 0x10000000000000000 then some n.toNat else none
  | _ => none

/-- Any value, in canonical form. -/
def decodeAny (v : Json) : Option Json := some v.canonical

/-- A list. -/
def decodeList {α : Type} (decode : Json → Option α) : Json → Option (List α)
  | .array items => items.mapM decode
  | _ => none

/-- The name of a choice, written as a string or as an object that gives the name null. -/
def decodeName : Json → Option String
  | .string s => some s
  | .object [(s, .null)] => some s
  | _ => none

/-- A list in one of its short forms: null for the empty list, and one item for a list of one. A
list is tried before an item. -/
def decodeOneOrMany {α : Type} (decode : Json → Option α) : Option Json → Option (List α)
  | none => some []
  | some .null => some []
  | some v =>
    match decodeList decode v with
    | some xs => some xs
    | none => (decode v).map fun x => [x]

end GraphLedger.Json
