import GraphLedger.Text.Base64

/-!
# Pages and cursors

A list is read page by page. A cursor says where the next page starts: it is the text `v1:` and the
offset, in base 64. A page has at least one item unless the list ends before it, and it names the
next cursor exactly if something is left.
-/

namespace GraphLedger

namespace Cursor

/-- What is wrong with a text that is no cursor. -/
inductive Fault where
  | malformed
  | missingVersion
  | unsupportedVersion (version : String)
  | invalidOffset (offset : String)
  deriving DecidableEq, Repr

/-- The wording of a fault. -/
def Fault.message : Fault → String
  | .malformed => "not the base 64 form of a text"
  | .missingVersion => "missing version"
  | .unsupportedVersion v => "unsupported cursor version '" ++ v ++ "'"
  | .invalidOffset o => "invalid offset '" ++ o ++ "'"

/-- The version of the form of cursors. -/
def version : List Char := ['v', '1']

/-- Offsets are below this, which is the number of words of 64 bits. -/
def offsetLimit : Nat := 0x10000000000000000

/-- The cursor of an offset. -/
def encode (offset : Nat) : String :=
  let text := version ++ ':' :: Nat.toDigits 10 offset
  String.ofList (Text.Base64.encode (text.map Char.toNat))

/-- Reads decimal digits. -/
def readDigits (ds : List Char) : Option Nat :=
  if ds.isEmpty || !ds.all Char.isDigit then none
  else
    let n := ds.foldl (fun n c => n * 10 + (c.toNat - 48)) 0
    if n < offsetLimit then some n else none

/-- Reads a number with or without a plus sign. -/
def readOffset : List Char → Option Nat
  | '+' :: ds => readDigits ds
  | ds => readDigits ds

/-- The part of a text before its first colon, and the part after it. -/
def splitVersion : List Char → Option (List Char × List Char)
  | [] => none
  | c :: cs =>
    if c == ':' then some ([], cs)
    else (splitVersion cs).map fun (before, after) => (c :: before, after)

/-- The text that bytes write, if they do. -/
def textOf? (bytes : List Nat) : Option String :=
  String.fromUTF8? ⟨(bytes.map UInt8.ofNat).toArray⟩

/-- The offset of a cursor. -/
def decode (cursor : String) : Except Fault Nat :=
  match (Text.Base64.decode? cursor.toList).bind textOf? with
  | none => .error .malformed
  | some text =>
    match splitVersion text.toList with
    | none => .error .missingVersion
    | some (v, offset) =>
      if v != version then .error (.unsupportedVersion (String.ofList v))
      else
        match readOffset offset with
        | some n => .ok n
        | none => .error (.invalidOffset (String.ofList offset))

end Cursor

/-- A part of a list, with the cursor of the part after it. -/
structure Page (α : Type) where
  items : List α
  nextCursor : Option String
  deriving Repr

namespace Page

/-- The page of a list at an offset. -/
def atOffset {α : Type} (items : List α) (offset limit : Nat) : Page α :=
  let rest := items.drop offset
  let limit := max limit 1
  let page := rest.take limit
  ⟨page, if limit < rest.length then some (Cursor.encode (offset + page.length)) else none⟩

/-- The page of a list at a cursor, the first page without one. -/
def ofItems {α : Type} (items : List α) (cursor : Option String) (limit : Nat) :
    Except Cursor.Fault (Page α) :=
  match cursor with
  | none => .ok (atOffset items 0 limit)
  | some c => (Cursor.decode c).map fun offset => atOffset items offset limit

/-- The page without items. -/
def empty {α : Type} : Page α := ⟨[], none⟩

end Page

end GraphLedger
