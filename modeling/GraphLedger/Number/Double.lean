/-!
# Binary floating point

The finite numbers of the 64 bit binary format, with exact arithmetic: a result is computed as a
quotient of whole numbers and rounded once, to the nearest number of the format, a tie to the even
one. Every number has one form here, so equality of the parts is equality of the bits; the two zeros
differ.
-/

namespace GraphLedger

/-- A finite number in binary floating point, `± mantissa · 2 ^ exponent`. -/
structure Double where
  negative : Bool
  mantissa : Nat
  exponent : Int
  deriving DecidableEq, Inhabited, Repr

namespace Double

/-- The least exponent of the format. -/
def minExponent : Int := -1074

/-- The greatest exponent of the format. -/
def maxExponent : Int := 971

/-- The least mantissa of a number that is not subnormal. -/
def hidden : Nat := 0x10000000000000

/-- Zero with a sign. -/
def zero (negative : Bool) : Double := ⟨negative, 0, minExponent⟩

/-- A quotient rounded to the nearest whole number, a tie to the even one. -/
def divNearest (num den : Nat) : Nat :=
  let q := num / den
  let r := num % den
  if 2 * r < den then q
  else if den < 2 * r then q + 1
  else if q % 2 == 0 then q else q + 1

/-- A quotient times a power of two, as a quotient again. -/
def scaleBy (num den : Nat) (k : Int) : Nat × Nat :=
  if 0 ≤ k then (num * Nat.pow 2 k.toNat, den) else (num, den * Nat.pow 2 (-k).toNat)

/-- The exponent with which a positive quotient gets a mantissa of 53 bits, or the least exponent if
the quotient is too small for that. -/
def exponentOf (num den : Nat) : Int :=
  let guess : Int := (Nat.log2 num : Int) - (Nat.log2 den : Int) - 52
  let (a, b) := scaleBy num den (-guess)
  max (if a < hidden * b then guess - 1 else guess) minExponent

/-- The number nearest to a quotient, none if that is beyond the greatest one. -/
def round? (negative : Bool) (num den : Nat) : Option Double :=
  if num == 0 then some (zero negative)
  else
    let e := exponentOf num den
    let (a, b) := scaleBy num den (-e)
    let q := divNearest a b
    let (q, e) := if q == 2 * hidden then (hidden, e + 1) else (q, e)
    if maxExponent < e then none else some ⟨negative, q, e⟩

/-- The number nearest to a significand of so many digits times a power of ten, none if that is
beyond the greatest one. -/
def nearestDecimal? (negative : Bool) (significand digits : Nat) (exponent : Int) :
    Option Double :=
  if significand == 0 || exponent + digits < -400 then some (zero negative)
  else if 400 < exponent then none
  else if 0 ≤ exponent then round? negative (significand * Nat.pow 10 exponent.toNat) 1
  else round? negative significand (Nat.pow 10 (-exponent).toNat)

/-- The absolute value as a quotient. -/
def magnitude (x : Double) : Nat × Nat := scaleBy x.mantissa 1 x.exponent

/-- Whether a number is zero, of either sign. -/
def isZero (x : Double) : Bool := x.mantissa == 0

/-- Whether a number is neither zero nor subnormal. -/
def isNormal (x : Double) : Bool := hidden ≤ x.mantissa

/-- The number nearest to a whole number. -/
def ofNat? (n : Nat) : Option Double := round? false n 1

/-- The product, rounded. -/
def mul? (x y : Double) : Option Double :=
  let (a, b) := x.magnitude
  let (c, d) := y.magnitude
  round? (x.negative != y.negative) (a * c) (b * d)

/-- The quotient, rounded; the divisor is not zero. -/
def div? (x y : Double) : Option Double :=
  let (a, b) := x.magnitude
  let (c, d) := y.magnitude
  round? (x.negative != y.negative) (a * d) (b * c)

/-- The greatest power of ten that is scaled by in one step. -/
def decimalStep : Nat := 308

/-- The number nearest to a power of ten. -/
def powTen? (n : Nat) : Option Double := round? false (Nat.pow 10 n) 1

/-- Divides by the step while the exponent is below minus the step, at most a number of times; three
are enough for zero to be reached from any whole number of 64 bits. -/
def stepDown : Nat → Double → Int → Double × Int
  | 0, x, e => (x, e)
  | n + 1, x, e =>
    if e < -(decimalStep : Int) && !x.isZero then
      match powTen? decimalStep with
      | some p => stepDown n ((x.div? p).getD (zero false)) (e + decimalStep)
      | none => (x, e)
    else (x, e)

/-- The number read for `significand · 10 ^ exponent`: the significand is rounded, and then
multiplied or divided by the rounded power of ten, rounding again. None if it is out of range. -/
def ofDecimal? (significand : Nat) (exponent : Int) : Option Double := do
  let f ← ofNat? significand
  if 0 ≤ exponent then
    if exponent ≤ decimalStep then
      f.mul? (← powTen? exponent.toNat)
    else if f.isZero then some f else none
  else
    let (g, e) := stepDown 4 f exponent
    if g.isZero then some g else g.div? (← powTen? (-e).toNat)

/-- The opposite number. -/
def neg (x : Double) : Double := { x with negative := !x.negative }

/-! ### Comparing -/

/-- The value as a signed numerator over a denominator. -/
def toQuotient (x : Double) : Int × Nat :=
  let (a, b) := x.magnitude
  (if x.negative then -(a : Int) else a, b)

end Double

end GraphLedger
