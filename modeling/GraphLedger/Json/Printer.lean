import GraphLedger.Json.Basic
import GraphLedger.Number.Shortest

/-!
# Printing JSON

Two layouts: compact, without any blank, and indented, with two spaces for each level. Both write
fields in the order they have. In a string only quotes, backslashes and the control characters below
the space are escaped.
-/

namespace GraphLedger.Json

/-- A digit in base sixteen. -/
def hexDigit (n : Nat) : Char := Nat.digitChar n

/-- How one character is written in a string. -/
def escape (c : Char) : List Char :=
  if c == '"' then ['\\', '"']
  else if c == '\\' then ['\\', '\\']
  else if c.toNat == 8 then ['\\', 'b']
  else if c.toNat == 12 then ['\\', 'f']
  else if c == '\n' then ['\\', 'n']
  else if c == '\r' then ['\\', 'r']
  else if c == '\t' then ['\\', 't']
  else if c.toNat < 0x20 then
    ['\\', 'u', '0', '0', hexDigit (c.toNat / 16), hexDigit (c.toNat % 16)]
  else [c]

/-- A string between quotes. -/
def quote (s : String) : String :=
  String.ofList ('"' :: (s.toList.flatMap escape ++ ['"']))

mutual

/-- The compact text of a value. -/
def compact : Json → String
  | .null => "null"
  | .bool true => "true"
  | .bool false => "false"
  | .int n => toString n
  | .float x => x.toText
  | .string s => quote s
  | .array items => "[" ++ compactItems items ++ "]"
  | .object fs => "\x7b" ++ compactFields fs ++ "\x7d"

/-- The items of an array with commas between them. -/
def compactItems : List Json → String
  | [] => ""
  | [v] => compact v
  | v :: w :: vs => compact v ++ "," ++ compactItems (w :: vs)

/-- The fields of an object with commas between them. -/
def compactFields : List (String × Json) → String
  | [] => ""
  | [(k, v)] => quote k ++ ":" ++ compact v
  | (k, v) :: f :: fs => quote k ++ ":" ++ compact v ++ "," ++ compactFields (f :: fs)

end

/-- A new line, indented. -/
def newline (level : Nat) : String := String.ofList ('\n' :: List.replicate (2 * level) ' ')

mutual

/-- The indented text of a value that stands at a level. -/
def indentedAt (level : Nat) : Json → String
  | .array [] => "[]"
  | .object [] => "\x7b\x7d"
  | .array items => "[" ++ indentedItems (level + 1) items ++ newline level ++ "]"
  | .object fs => "\x7b" ++ indentedFields (level + 1) fs ++ newline level ++ "\x7d"
  | .null => "null"
  | .bool true => "true"
  | .bool false => "false"
  | .int n => toString n
  | .float x => x.toText
  | .string s => quote s

/-- The items of an array, each on a line of its own. -/
def indentedItems (level : Nat) : List Json → String
  | [] => ""
  | [v] => newline level ++ indentedAt level v
  | v :: w :: vs => newline level ++ indentedAt level v ++ "," ++ indentedItems level (w :: vs)

/-- The fields of an object, each on a line of its own. -/
def indentedFields (level : Nat) : List (String × Json) → String
  | [] => ""
  | [(k, v)] => newline level ++ quote k ++ ": " ++ indentedAt level v
  | (k, v) :: f :: fs =>
    newline level ++ quote k ++ ": " ++ indentedAt level v ++ "," ++ indentedFields level (f :: fs)

end

/-- The indented text of a value. -/
def indented (v : Json) : String := indentedAt 0 v

end GraphLedger.Json
