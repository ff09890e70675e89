/-!
# Sortable identifiers

An identifier of 128 bits is written with 26 digits in base 32, in an alphabet without the letters
that are easily mistaken. Its upper 48 bits are a time in milliseconds. Digits may be in either
case, and the bits that 26 digits hold beyond 128 do not matter.
-/

namespace GraphLedger.Ulid

/-- The digits in the order of their values. -/
def alphabet : List Char := "0123456789ABCDEFGHJKMNPQRSTVWXYZ".toList

/-- The value of a digit in either case. -/
def value? (c : Char) : Option Nat := alphabet.idxOf? c.toUpper

/-- The number of digits. -/
def size : Nat := 26

/-- The number that an identifier writes. -/
def decode? (s : String) : Option Nat := do
  let cs := s.toList
  if cs.length != size then none
  else
    let ds ← cs.mapM value?
    some (ds.foldl (fun n d => n * 32 + d) 0 % 0x100000000000000000000000000000000)

/-- Whether a text is an identifier. -/
def isValid (s : String) : Bool := (decode? s).isSome

/-- The time in an identifier, in milliseconds. -/
def milliseconds (n : Nat) : Nat := n / 0x100000000000000000000

/-- The given number of digits of a number, the last of them first. -/
def digits : Nat → Nat → List Char
  | 0, _ => []
  | k + 1, n => alphabet.getD (n % 32) '0' :: digits k (n / 32)

/-- The number of digits that a number is written with: the usual one, or more if it needs more. -/
def digitCount (n : Nat) : Nat := max size (Nat.log2 n / 5 + 1)

/-- The identifier of a number; no two numbers have the same. -/
def encode (n : Nat) : String := String.ofList (digits (digitCount n) n).reverse

end GraphLedger.Ulid
