/-!
# Base 64

The encoding of bytes in the alphabet that is safe in addresses, without padding. Decoding accepts
exactly the texts that encoding produces: the bits left over in the last digit must be zero.
-/

namespace GraphLedger.Text.Base64

/-- The digits in the order of their values. -/
def alphabet : List Char :=
  "ABCDEFGHIJKLMNOPQRSTUVWXYZabcdefghijklmnopqrstuvwxyz0123456789-_".toList

/-- The digit of a value. -/
def digit (n : Nat) : Char := alphabet.getD n 'A'

/-- The value of a digit. -/
def value? (c : Char) : Option Nat := alphabet.idxOf? c

/-- The digits of bytes, three bytes to four digits. -/
def encode : List Nat → List Char
  | [] => []
  | [a] => [digit (a / 4), digit (a % 4 * 16)]
  | [a, b] => [digit (a / 4), digit (a % 4 * 16 + b / 16), digit (b % 16 * 4)]
  | a :: b :: c :: rest =>
    digit (a / 4) :: digit (a % 4 * 16 + b / 16) :: digit (b % 16 * 4 + c / 64) :: digit (c % 64)
      :: encode rest

/-- The bytes that values of digits write. -/
def bytes? : List Nat → Option (List Nat)
  | [] => some []
  | [_] => none
  | [a, b] => if b % 16 == 0 then some [a * 4 + b / 16] else none
  | [a, b, c] =>
    if c % 4 == 0 then some [a * 4 + b / 16, b % 16 * 16 + c / 4] else none
  | a :: b :: c :: d :: rest =>
    (bytes? rest).map fun bs => (a * 4 + b / 16) :: (b % 16 * 16 + c / 4) :: (c % 4 * 64 + d) :: bs

/-- The bytes that digits write. -/
def decode? (ds : List Char) : Option (List Nat) := do bytes? (← ds.mapM value?)

end GraphLedger.Text.Base64
