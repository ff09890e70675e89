import GraphLedger.Template.Basic
import GraphLedger.Json.Printer
import GraphLedger.Json.Reader

/-!
# Values in templates

How a value is shown, which values count as true, how values compare, and what lies at a name or an
index of a value. What is missing is null.
-/

namespace GraphLedger.Template.Value

/-! ### Text -/

mutual

/-- The text of a value: nothing for null, and objects without their contents. -/
def toText : Json → String
  | .null => ""
  | .bool b => if b then "true" else "false"
  | .int n => toString n
  | .float x => x.toText
  | .string s => s
  | .array items => "[" ++ itemsText items ++ "]"
  | .object _ => "[object]"

/-- The texts of items with commas between them. -/
def itemsText : List Json → String
  | [] => ""
  | [v] => toText v
  | v :: w :: vs => toText v ++ ", " ++ itemsText (w :: vs)

end

/-! ### Truth -/

/-- Whether a value counts as true. Numbers do unless they are zero, or too small to be normal; with
`includeZero` all do. -/
def isTrue (includeZero : Bool) : Json → Bool
  | .null => false
  | .bool b => b
  | .int n => includeZero || n != 0
  | .float x => includeZero || x.isNormal
  | .string s => !s.isEmpty
  | .array items => !items.isEmpty
  | .object fs => !fs.isEmpty

/-! ### Comparison -/

mutual

/-- A value without the signs of zeros. -/
def plain : Json → Json
  | .float x => .float (if x.isZero then .zero false else x)
  | .array items => .array (plainItems items)
  | .object fs => .object (plainFields fs)
  | v => v

/-- Items without the signs of zeros. -/
def plainItems : List Json → List Json
  | [] => []
  | v :: vs => plain v :: plainItems vs

/-- Fields without the signs of zeros. -/
def plainFields : List (String × Json) → List (String × Json)
  | [] => []
  | (k, v) :: fs => (k, plain v) :: plainFields fs

end

/-- Whether two values are equal; a whole number is not equal to a floating point one. -/
def same (v w : Json) : Bool := plain v = plain w

/-- The number that a value is, as a numerator over a positive denominator. -/
def number? : Json → Option (Int × Nat)
  | .int n => some (n, 1)
  | .float x => some x.toQuotient
  | _ => none

/-- How two numbers compare. -/
def compareNumbers (a b : Int × Nat) : Ordering := Ord.compare (a.1 * b.2) (b.1 * a.2)

/-- The number that a text writes in the manner of JSON, without blanks around it. -/
def writtenNumber? (s : String) : Option (Int × Nat) :=
  let bare :=
    (s.toList.head?.any fun c => c == '-' || c.isDigit) && s.toList.getLast?.any Char.isDigit
  if bare then
    match Json.read s with
    | .ok v => number? v
    | .error _ => none
  else none

/-- How two values compare, if they do: numbers, strings, truth values, and a number and a string
that writes a number. -/
def compare? : Json → Json → Option Ordering
  | .string s, .string t => some (compareOfLessAndEq s t)
  | .bool a, .bool b => some (Ord.compare a.toNat b.toNat)
  | .string s, v => do
    let a ← writtenNumber? s
    let b ← number? v
    some (compareNumbers a b)
  | v, .string s => do
    let a ← number? v
    let b ← writtenNumber? s
    some (compareNumbers a b)
  | v, w => do
    let a ← number? v
    let b ← number? w
    some (compareNumbers a b)

/-! ### Looking inside -/

/-- The index that a name is. -/
def index? (name : String) : Option Nat :=
  let ds := match name.toList with
    | '+' :: cs => cs
    | cs => cs
  if ds.isEmpty || !ds.all Char.isDigit then none
  else
    let n := ds.foldl (fun n c => 10 * n + (c.toNat - 48)) 0
    if n < 0x10000000000000000 then some n else none

/-- What a value has under a name; the name must be an index if the value is an array. -/
def child (v : Json) (name : String) : Except Fault Json :=
  match v with
  | .array items =>
    match index? name with
    | some n => .ok (items.getD n .null)
    | none => .error (.badIndex name)
  | .object fs => .ok ((Json.Fields.get? fs name).getD .null)
  | _ => .ok .null

/-- What a value has under names, one after the other. -/
def follow (v : Json) (names : List String) : Except Fault Json := names.foldlM child v

/-- What an array has at an index, or an object under a name. -/
def lookup (collection key : Json) : Json :=
  match collection, key with
  | .array items, .int n => if 0 ≤ n then items.getD n.toNat .null else .null
  | .object fs, .string k => (Json.Fields.get? fs k).getD .null
  | _, _ => .null

/-- The number of items, fields or bytes of a value. -/
def size : Json → Nat
  | .array items => items.length
  | .object fs => fs.length
  | .string s => s.utf8ByteSize
  | _ => 0

end GraphLedger.Template.Value
