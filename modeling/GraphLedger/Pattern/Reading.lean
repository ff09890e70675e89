import GraphLedger.Pattern.Fault
import GraphLedger.Pattern.Basic
import GraphLedger.Text.Blank

/-!
# Reading patterns step by step

The state of reading a pattern: what is left of the text, the flags in force, and the number and the
names of the groups met so far. With the flag for free spacing, blanks and comments between the
parts of a pattern do not count.
-/

namespace GraphLedger.Pattern

/-- What flags say about the meaning of a pattern. -/
structure Flags where
  ignoreCase : Bool
  multiLine : Bool
  dotAll : Bool
  swapGreed : Bool
  unicode : Bool
  spaced : Bool
  returns : Bool
  deriving DecidableEq, Inhabited, Repr

namespace Flags

/-- The flags at the beginning of a pattern. -/
def initial : Flags := ⟨false, false, false, false, true, false, false⟩

/-- Sets the flag of a letter. -/
def set? (f : Flags) (value : Bool) : Char → Option Flags
  | 'i' => some { f with ignoreCase := value }
  | 'm' => some { f with multiLine := value }
  | 's' => some { f with dotAll := value }
  | 'U' => some { f with swapGreed := value }
  | 'u' => some { f with unicode := value }
  | 'x' => some { f with spaced := value }
  | 'R' => some { f with returns := value }
  | _ => none

end Flags

/-- What changes while a pattern is read. -/
structure Progress where
  rest : List Char
  flags : Flags
  groups : Nat
  groupNames : List (List Char)

/-- A step of reading. -/
abbrev Reading := StateT Progress (Except Fault)

namespace Reading

/-- The text without blanks and comments at its beginning. -/
def afterSpace : Nat → List Char → List Char
  | 0, cs => cs
  | _ + 1, [] => []
  | fuel + 1, c :: cs =>
    if Text.isBlank c then afterSpace fuel cs
    else if c = '#' then afterSpace fuel ((cs.dropWhile (· != '\n')).drop 1)
    else c :: cs

/-- Skips blanks and comments if spacing is free. -/
def skipSpace : Reading Unit :=
  modify fun p => if p.flags.spaced then { p with rest := afterSpace p.rest.length p.rest } else p

/-- What is left of the text. -/
def rest : Reading (List Char) := return (← get).rest

/-- Continues with another text. -/
def setRest (cs : List Char) : Reading Unit := modify fun p => { p with rest := cs }

/-- The flags in force. -/
def flags : Reading Flags := return (← get).flags

/-- Puts other flags in force. -/
def setFlags (f : Flags) : Reading Unit := modify fun p => { p with flags := f }

/-- The next character. -/
def peek : Reading (Option Char) := return (← get).rest.head?

/-- The next character; it is a fault if there is none. -/
def peekOr (fault : Fault) : Reading Char := do
  match (← get).rest with
  | c :: _ => return c
  | [] => throw fault

/-- Goes past the next character. -/
def bump : Reading Unit := modify fun p => { p with rest := p.rest.drop 1 }

/-- Goes past the next character and the space after it. -/
def advance : Reading Unit := do
  bump
  skipSpace

/-- The character after the next one and the space between them. -/
def peekPast : Reading (Option Char) := do
  let p ← get
  let cs := p.rest.drop 1
  return (if p.flags.spaced then afterSpace cs.length cs else cs).head?

/-- The number of a new group. -/
def newGroup : Reading Nat := do
  let n := (← get).groups + 1
  modify fun p => { p with groups := n }
  return n

/-- The characters up to one that fails a test, with space between them skipped, each in reverse
order. -/
def collect (p : Char → Bool) : Nat → List Char → Reading (List Char)
  | 0, acc => return acc
  | fuel + 1, acc => do
    match (← get).rest with
    | c :: _ =>
      if p c then
        advance
        collect p fuel (c :: acc)
      else return acc
    | [] => return acc

/-- The longest run of characters that pass a test, with space between them skipped. -/
def takeWhile (p : Char → Bool) : Reading (List Char) := do
  return (← collect p (← rest).length []).reverse

/-- Goes past blanks, whatever the spacing. -/
def skipBlanks : Reading Unit := modify fun p => { p with rest := p.rest.dropWhile Text.isBlank }

end Reading

/-! ### Numbers -/

/-- The value of a digit of a hexadecimal number. -/
def hexValue? (c : Char) : Option Nat :=
  if '0' ≤ c && c ≤ '9' then some (c.toNat - 48)
  else if 'a' ≤ c && c ≤ 'f' then some (c.toNat - 87)
  else if 'A' ≤ c && c ≤ 'F' then some (c.toNat - 55)
  else none

/-- The value of digits in a base, the first digit being the highest. -/
def ofDigits (base : Nat) (digits : List Nat) : Nat := digits.foldl (fun n d => n * base + d) 0

namespace Reading

/-- A count in decimal digits, below `2 ^ 32`, with blanks around it. -/
def count : Reading Nat := do
  skipBlanks
  let digits ← takeWhile fun c => '0' ≤ c && c ≤ '9'
  skipBlanks
  skipSpace
  let n := ofDigits 10 (digits.map fun c => c.toNat - 48)
  if digits.isEmpty || 0x100000000 ≤ n then throw .badCount
  return n

end Reading

end GraphLedger.Pattern
