/-!
# Ranges of characters as octets

A range of characters, written in one to four octets each, is divided into ranges whose octets vary
independently of each other: the first octet in a range, the second in a range, and so on.
-/

namespace GraphLedger.Pattern

/-- The octets in which a character is written. -/
def octets (n : Nat) : List Nat :=
  if n < 0x80 then [n]
  else if n < 0x800 then [0xC0 + n / 64, 0x80 + n % 64]
  else if n < 0x10000 then [0xE0 + n / 4096, 0x80 + n / 64 % 64, 0x80 + n % 64]
  else [0xF0 + n / 262144, 0x80 + n / 4096 % 64, 0x80 + n / 64 % 64, 0x80 + n % 64]

/-- Where a range is to be divided: before the first character that takes more octets, else where
octets before the last change while those after them do not go all the way. -/
def cut? (lo hi : Nat) : Option Nat :=
  match [0x7F, 0x7FF, 0xFFFF].find? fun m => lo ≤ m && m < hi with
  | some m => some m
  | none =>
    if hi < 0x80 then none
    else
      [64, 4096, 262144].findSome? fun m =>
        if lo / m = hi / m then none
        else if lo % m ≠ 0 then some ((lo / m + 1) * m - 1)
        else if hi % m ≠ m - 1 then some (hi / m * m - 1)
        else none

/-- The ranges of octets of a range of characters that is divided at most so often. -/
def divide : Nat → Nat → Nat → List (List (Nat × Nat))
  | 0, _, _ => []
  | fuel + 1, lo, hi =>
    if hi < lo then []
    else
      match cut? lo hi with
      | some m => divide fuel lo m ++ divide fuel (m + 1) hi
      | none => [(octets lo).zip (octets hi)]

/-- The ranges of octets of a range of characters. It is divided once between U+D7FF and U+E000, at
most three times for the number of octets, and twice for each octet. -/
def octetRanges (lo hi : Nat) : List (List (Nat × Nat)) :=
  if lo < 0xE000 && 0xD7FF < hi then divide 16 lo 0xD7FF ++ divide 16 0xE000 hi
  else divide 16 lo hi

end GraphLedger.Pattern
