import GraphLedger.Number.Double

/-!
# JSON values

A JSON value keeps whole numbers apart from floating point ones. An object is a list of fields; in
its canonical form the keys increase by code point, which is also the order in which properties make
statements, templates iterate and messages print. A text that names a key twice means the last field
of that name.
-/

namespace GraphLedger

/-- A JSON value. -/
inductive Json where
  | null
  | bool (b : Bool)
  | int (n : Int)
  | float (x : Double)
  | string (s : String)
  | array (items : List Json)
  | object (fields : List (String × Json))
  deriving Inhabited

namespace Json

/-- The fields of an object. -/
abbrev Fields := List (String × Json)

/-! ### Equality -/

mutual

/-- Equality of values is decided part by part. -/
def hasDecEq : (a b : Json) → Decidable (a = b)
  | .null, .null => isTrue rfl
  | .bool a, .bool b =>
    if h : a = b then isTrue (by rw [h]) else isFalse (by simp [h])
  | .int a, .int b =>
    if h : a = b then isTrue (by rw [h]) else isFalse (by simp [h])
  | .float a, .float b =>
    if h : a = b then isTrue (by rw [h]) else isFalse (by simp [h])
  | .string a, .string b =>
    if h : a = b then isTrue (by rw [h]) else isFalse (by simp [h])
  | .array a, .array b =>
    match hasDecEqItems a b with
    | isTrue h => isTrue (by rw [h])
    | isFalse h => isFalse (by simp [h])
  | .object a, .object b =>
    match hasDecEqFields a b with
    | isTrue h => isTrue (by rw [h])
    | isFalse h => isFalse (by simp [h])
  | .null, .bool _ | .null, .int _ | .null, .float _ | .null, .string _ | .null, .array _
  | .null, .object _ => isFalse nofun
  | .bool _, .null | .bool _, .int _ | .bool _, .float _ | .bool _, .string _ | .bool _, .array _
  | .bool _, .object _ => isFalse nofun
  | .int _, .null | .int _, .bool _ | .int _, .float _ | .int _, .string _ | .int _, .array _
  | .int _, .object _ => isFalse nofun
  | .float _, .null | .float _, .bool _ | .float _, .int _ | .float _, .string _
  | .float _, .array _ | .float _, .object _ => isFalse nofun
  | .string _, .null | .string _, .bool _ | .string _, .int _ | .string _, .float _
  | .string _, .array _ | .string _, .object _ => isFalse nofun
  | .array _, .null | .array _, .bool _ | .array _, .int _ | .array _, .float _
  | .array _, .string _ | .array _, .object _ => isFalse nofun
  | .object _, .null | .object _, .bool _ | .object _, .int _ | .object _, .float _
  | .object _, .string _ | .object _, .array _ => isFalse nofun

/-- Equality of lists of values. -/
def hasDecEqItems : (a b : List Json) → Decidable (a = b)
  | [], [] => isTrue rfl
  | a :: as, b :: bs =>
    match hasDecEq a b, hasDecEqItems as bs with
    | isTrue h, isTrue h' => isTrue (by rw [h, h'])
    | isFalse h, _ => isFalse (by simp [h])
    | _, isFalse h => isFalse (by simp [h])
  | [], _ :: _ | _ :: _, [] => isFalse nofun

/-- Equality of lists of fields. -/
def hasDecEqFields : (a b : List (String × Json)) → Decidable (a = b)
  | [], [] => isTrue rfl
  | (k, a) :: as, (l, b) :: bs =>
    match instDecidableEqString k l, hasDecEq a b, hasDecEqFields as bs with
    | isTrue h, isTrue h', isTrue h'' => isTrue (by rw [h, h', h''])
    | isFalse h, _, _ => isFalse (by simp [h])
    | _, isFalse h, _ => isFalse (by simp [h])
    | _, _, isFalse h => isFalse (by simp [h])
  | [], _ :: _ | _ :: _, [] => isFalse nofun

end

instance : DecidableEq Json := hasDecEq

/-! ### Looking inside -/

/-- The value of a key, the first if there are several. -/
def Fields.get? (fs : Fields) (key : String) : Option Json := fs.lookup key

/-- Whether a key has a value. -/
def Fields.has (fs : Fields) (key : String) : Bool := fs.any fun f => f.1 == key

/-- The text, if the value is one. -/
def asString? : Json → Option String
  | .string s => some s
  | _ => none

/-- The items of an array, and any other value as the only item. -/
def asItems : Json → List Json
  | .array items => items
  | v => [v]

/-! ### Canonical form -/

/-- Gives a key a value, in place of the one it had or where the order of keys wants it. -/
def Fields.set (key : String) (value : Json) : Fields → Fields
  | [] => [(key, value)]
  | (k, v) :: rest =>
    if key < k then (key, value) :: (k, v) :: rest
    else if key = k then (key, value) :: rest
    else (k, v) :: Fields.set key value rest

/-- Fields in the order of their keys, of each key the last. -/
def Fields.sorted (fs : Fields) : Fields :=
  fs.foldl (fun acc f => acc.set f.1 f.2) []

mutual

/-- The value with every object in canonical form. -/
def canonical : Json → Json
  | .array items => .array (canonicalItems items)
  | .object fs => .object (Fields.sorted (canonicalFields fs))
  | v => v

/-- Each item in canonical form. -/
def canonicalItems : List Json → List Json
  | [] => []
  | v :: vs => canonical v :: canonicalItems vs

/-- Each field's value in canonical form. -/
def canonicalFields : List (String × Json) → List (String × Json)
  | [] => []
  | (k, v) :: fs => (k, canonical v) :: canonicalFields fs

end

/-- An object from fields, leaving out the ones without a value. -/
def ofFields (fs : List (String × Option Json)) : Json :=
  .object (fs.filterMap fun f => f.2.map fun v => (f.1, v))

end Json

end GraphLedger
