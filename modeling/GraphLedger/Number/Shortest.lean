import GraphLedger.Number.Double

/-!
# Shortest decimals

The decimal with the fewest digits that still reads back as a given floating point number. The reals
that round to the number form an interval around it, with its ends if the mantissa is even. On the
grid of decimals with one digit, then two, and so on, the two neighbours of the number are tried;
the first grid with a neighbour in the interval wins, and of two the nearer one.
-/

namespace GraphLedger.Double

/-- The number of decimal digits of a number. -/
def digitCount (n : Nat) : Nat := (Nat.toDigits 10 n).length

/-- A quotient times a power of ten, as a quotient again. -/
def scaleByTen (num den : Nat) (k : Int) : Nat × Nat :=
  if 0 ≤ k then (num * Nat.pow 10 k.toNat, den) else (num, den * Nat.pow 10 (-k).toNat)

/-- The exponent of the first digit of a positive quotient. -/
def leadingPlace (num den : Nat) : Int :=
  if den ≤ num then (digitCount (num / den) : Int) - 1
  else
    let guess : Int := (digitCount num : Int) - (digitCount den : Int)
    let (a, b) := scaleByTen num den (-guess)
    if a < b then guess - 1 else guess

/-- The interval of reals that round to a number, as its ends over four times the unit of the
mantissa, with the unit's exponent, and whether the ends belong to it. -/
def interval (x : Double) : Nat × Nat × Int × Bool :=
  let low := if x.mantissa == hidden && minExponent < x.exponent then 1 else 2
  (4 * x.mantissa - low, 4 * x.mantissa + 2, x.exponent - 2, x.mantissa % 2 == 0)

/-- Whether `d · 10 ^ k` rounds to a number. -/
def readsBack (x : Double) (d : Nat) (k : Int) : Bool :=
  let (lo, hi, e, closed) := x.interval
  let (p, q) := scaleByTen d 1 k
  let (l, u) := scaleBy lo 1 e
  let (h, v) := scaleBy hi 1 e
  if closed then l * q ≤ p * u && p * v ≤ h * q else l * q < p * u && p * v < h * q

/-- The nearest decimal on the grid of step `10 ^ k` that rounds to the number. -/
def onGrid? (x : Double) (k : Int) : Option Nat :=
  let (num, den) := x.magnitude
  let (a, b) := scaleByTen num den (-k)
  let below := a / b
  let r := a % b
  match x.readsBack below k, x.readsBack (below + 1) k with
  | true, true =>
    if 2 * r < b then some below
    else if b < 2 * r then some (below + 1)
    else if below % 2 == 0 then some below else some (below + 1)
  | true, false => some below
  | false, true => some (below + 1)
  | false, false => none

/-- Tries the grids with one digit more each time; seventeen digits are always enough. -/
def firstGrid (x : Double) (place : Int) : Nat → Nat → Nat × Int
  | 0, _ => (0, 0)
  | fuel + 1, n =>
    let k := place - (n : Int)
    match x.onGrid? k with
    | some d => (d, k)
    | none => firstGrid x place fuel (n + 1)

/-- The digits of the shortest decimal of a number that is not zero, and the exponent of the last.
-/
def shortest (x : Double) : Nat × Int :=
  let (num, den) := x.magnitude
  x.firstGrid (leadingPlace num den) 17 0

/-- Where numbers are written without an exponent: from this place of the first digit. -/
def positionalFrom : Int := -5

/-- Where numbers are written without an exponent: up to this place of the first digit. -/
def positionalTo : Int := 15

/-- Drops the zeros at the end of the digits, given in reverse. -/
def dropZeros (ds : List Char) : List Char := (ds.reverse.dropWhile (· == '0')).reverse

/-- The text of digits, the first at a place: positional with at least one digit after the point, or
with an exponent that has a sign and no padding. -/
def writeDigits (ds : List Char) (place : Int) : String :=
  if place < positionalFrom || positionalTo < place then
    let mantissa := match ds with
      | [] => "0"
      | [d] => String.ofList [d]
      | d :: rest => String.ofList (d :: '.' :: rest)
    let sign := if place < 0 then "-" else "+"
    mantissa ++ "e" ++ sign ++ toString place.natAbs
  else if place < 0 then
    "0." ++ String.ofList (List.replicate (place.natAbs - 1) '0' ++ ds)
  else
    let whole := place.toNat + 1
    let before := ds.take whole ++ List.replicate (whole - ds.length) '0'
    let after := ds.drop whole
    String.ofList before ++ "." ++ (if after.isEmpty then "0" else String.ofList after)

/-- The text of a number: its shortest decimal. -/
def toText (x : Double) : String :=
  let sign := if x.negative then "-" else ""
  if x.isZero then sign ++ "0.0"
  else
    let (d, k) := x.shortest
    let ds := Nat.toDigits 10 d
    sign ++ writeDigits (dropZeros ds) (k + (ds.length : Int) - 1)

end GraphLedger.Double
