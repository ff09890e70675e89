/-!
# Sets of characters

A set of characters is written as ranges of code points with both ends included. In normal form the
ranges are in order, and between two of them lies at least one character that is in neither; then
equal sets have equal ranges. The code points from U+D800 to U+DFFF are no characters: U+E000
follows U+D7FF, and a range may go over them.
-/

namespace GraphLedger.Unicode

/-- A set of characters, as ranges with both ends included. -/
structure CharSet where
  ranges : Array (Nat × Nat)
  deriving DecidableEq, Inhabited, Repr

/-- The last code point. -/
def lastCodePoint : Nat := 0x10FFFF

/-- The character after a given one. -/
def succ (n : Nat) : Nat := if n = 0xD7FF then 0xE000 else n + 1

/-- The character before a given one. -/
def pred (n : Nat) : Nat := if n = 0xE000 then 0xD7FF else n - 1

namespace CharSet

/-- The set of no character. -/
def empty : CharSet := ⟨#[]⟩

/-- The set of all characters. -/
def all : CharSet := ⟨#[(0, lastCodePoint)]⟩

/-- The set of one character. -/
def single (n : Nat) : CharSet := ⟨#[(n, n)]⟩

/-- The set of the characters from one to another. -/
def range (lo hi : Nat) : CharSet := ⟨#[(lo, hi)]⟩

/-! ### Membership -/

/-- Whether a number lies in one of the ranges from one place to another, the places being so far
apart at most. -/
def search (rs : Array (Nat × Nat)) (n : Nat) : Nat → Nat → Nat → Bool
  | 0, _, _ => false
  | gap + 1, low, high =>
    if high ≤ low then false
    else
      let middle := (low + high) / 2
      let (lo, hi) := rs.getD middle (0, 0)
      if n < lo then search rs n gap low middle
      else if hi < n then search rs n gap (middle + 1) high
      else true

/-- Whether a character is in a set. -/
def contains (s : CharSet) (n : Nat) : Bool := search s.ranges n (s.ranges.size + 1) 0 s.ranges.size

/-- Whether a set has no character. -/
def isEmpty (s : CharSet) : Bool := s.ranges.isEmpty

/-- The character of a set that has just one. -/
def single? (s : CharSet) : Option Nat :=
  match s.ranges.toList with
  | [(lo, hi)] => if lo = hi then some lo else none
  | _ => none

/-- Whether all characters of a set are in ASCII. -/
def isAscii (s : CharSet) : Bool := s.ranges.all fun r => r.2 < 0x80

/-! ### Normal form -/

/-- Joins a range to what comes after it, which is in normal form. -/
def joinRange (lo hi : Nat) : List (Nat × Nat) → List (Nat × Nat)
  | [] => [(lo, hi)]
  | (lo', hi') :: rest =>
    if lo' ≤ succ hi then joinRange lo (max hi hi') rest else (lo, hi) :: (lo', hi') :: rest

/-- The set of the characters in some ranges. -/
def ofRanges (rs : List (Nat × Nat)) : CharSet :=
  let sorted := rs.mergeSort fun r s => r.1 < s.1 || (r.1 == s.1 && r.2 ≤ s.2)
  ⟨(sorted.foldr (fun r rest => joinRange r.1 r.2 rest) []).toArray⟩

/-- The set of some characters. -/
def ofList (ns : List Nat) : CharSet := ofRanges (ns.map fun n => (n, n))

/-! ### Combinations -/

/-- The characters of either set. -/
def union (s t : CharSet) : CharSet := ofRanges (s.ranges.toList ++ t.ranges.toList)

/-- The characters of some set among several. -/
def unions (ss : List CharSet) : CharSet := ofRanges (ss.flatMap fun s => s.ranges.toList)

/-- The ranges between given ones, from a character on. -/
def gaps (start : Nat) : List (Nat × Nat) → List (Nat × Nat)
  | [] => if start ≤ lastCodePoint then [(start, lastCodePoint)] else []
  | (lo, hi) :: rest =>
    if start < lo then (start, pred lo) :: gaps (succ hi) rest else gaps (succ hi) rest

/-- The characters that are not in a set. -/
def compl (s : CharSet) : CharSet := ⟨(gaps 0 s.ranges.toList).toArray⟩

/-- The characters of both sets. -/
def inter (s t : CharSet) : CharSet := (s.compl.union t.compl).compl

/-- The characters of the first set that are not in the second. -/
def diff (s t : CharSet) : CharSet := s.inter t.compl

/-- The characters of exactly one of the sets. -/
def symmDiff (s t : CharSet) : CharSet := (s.union t).diff (s.inter t)

/-- The set or, if told so, the characters that are not in it. -/
def negateIf (negated : Bool) (s : CharSet) : CharSet := if negated then s.compl else s

end CharSet

end GraphLedger.Unicode
