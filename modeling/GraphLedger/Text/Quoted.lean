import GraphLedger.Unicode.Newest

/-!
# Quoted text

How a literal is shown: between double quotes, with a backslash before quotes and backslashes, the
short escapes for tab, line feed, carriage return and null, and `\u` with the code point between
braces for whatever would not stand on its own.
-/

namespace GraphLedger.Text.Quoted

open Unicode

/-- The digits of a number in base sixteen, in lower case and without leading zeros. -/
def hex (n : Nat) : List Char := Nat.toDigits 16 n

/-- The characters that would not stand on their own: those that are unassigned, private, or for
control, format or separation, those that are not shown where they are not supported, and marks that
extend the character before them. -/
def hidden : CharSet :=
  .unions [Category.unassigned.diff Newest.added, Category.control, Category.format,
    Category.privateUse, Category.separator, Property.ignorable, Newest.extender,
    Property.graphemeExtend.diff Category.modifierLetter]

/-- How one character is written between the quotes. -/
def escape (c : Char) : List Char :=
  if c == '"' then ['\\', '"']
  else if c == '\\' then ['\\', '\\']
  else if c == '\t' then ['\\', 't']
  else if c == '\n' then ['\\', 'n']
  else if c == '\r' then ['\\', 'r']
  else if c.toNat == 0 then ['\\', '0']
  else if 0x20 ≤ c.toNat && c.toNat < 0x7F then [c]
  else if !hidden.contains c.toNat then [c]
  else ['\\', 'u', '\x7b'] ++ hex c.toNat ++ ['\x7d']

/-- A text between quotes. -/
def encode (s : String) : String :=
  String.ofList ('"' :: (s.toList.flatMap escape ++ ['"']))

end GraphLedger.Text.Quoted
