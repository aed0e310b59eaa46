/-
# Binary floating point in natural arithmetic

A finite double is a sign, a mantissa and a binary exponent.  `ofRatio` rounds
a quotient of natural numbers to the nearest double, ties to the even mantissa,
and reports overflow.  Everything is exact arithmetic on `Nat`, so statements
about it need no theory of machine floats.
-/

import CanvasPress.Decimal.Power

namespace CanvasPress.Decimal

/-- The finite double `± mantissa * 2 ^ exponent`; the exponent of zero is immaterial. -/
structure Binary64 where
  negative : Bool
  mantissa : Nat
  exponent : Int
deriving DecidableEq, Inhabited

namespace Binary64

/-- Zero of either sign. -/
def zero (negative : Bool) : Binary64 :=
  ⟨negative, 0, 0⟩

/-- Whether a double is zero of either sign. -/
def isZero (x : Binary64) : Bool :=
  x.mantissa == 0

/-- The same magnitude with the given sign. -/
def withSign (negative : Bool) (x : Binary64) : Binary64 :=
  ⟨negative, x.mantissa, x.exponent⟩

/-- The magnitude as a quotient of natural numbers. -/
def ratio (x : Binary64) : Nat × Nat :=
  if 0 ≤ x.exponent then (x.mantissa * twoTo x.exponent.toNat, 1)
  else (x.mantissa, twoTo (-x.exponent).toNat)

/-- Scale a quotient by a power of two. -/
def scaleRatio (num den : Nat) (e : Int) : Nat × Nat :=
  if 0 ≤ e then (num * twoTo e.toNat, den) else (num, den * twoTo (-e).toNat)

/-- The nearest integer to a quotient, a half going to the even neighbour. -/
def roundRatio (num den : Nat) : Nat :=
  let whole := num / den
  let doubled := 2 * (num % den)
  if doubled < den then whole
  else if den < doubled then whole + 1
  else whole + whole % 2

/-- The nearest nonnegative double to `num / den`, or `none` beyond the largest
one.  The exponent is chosen so that the mantissa has 53 bits, or fewer at the
subnormal end. -/
def ofRatio (num den : Nat) : Option Binary64 :=
  if num = 0 then some (zero false)
  else
    let guess : Int := (Nat.log2 num : Int) - (Nat.log2 den : Int)
    let atLeast (e : Int) : Bool :=
      let (n, d) := scaleRatio num den (-e)
      d ≤ n
    let top := if atLeast guess then guess else guess - 1
    let exponent := max (top - 52) (-1074)
    let (n, d) := scaleRatio num den (-exponent)
    let mantissa := roundRatio n d
    let (mantissa, exponent) :=
      if mantissa = twoTo 53 then (twoTo 52, exponent + 1) else (mantissa, exponent)
    if 971 < exponent then none else some ⟨false, mantissa, exponent⟩

/-- The nearest double to a natural number. -/
def ofNat (n : Nat) : Option Binary64 :=
  ofRatio n 1

/-- The rounded product of two magnitudes. -/
def mul (x y : Binary64) : Option Binary64 :=
  let (a, b) := x.ratio
  let (c, d) := y.ratio
  ofRatio (a * c) (b * d)

/-- The rounded quotient of two magnitudes; the divisor is positive. -/
def div (x y : Binary64) : Option Binary64 :=
  let (a, b) := x.ratio
  let (c, d) := y.ratio
  ofRatio (a * d) (b * c)

/-- The double nearest to a power of ten within range. -/
def powerOfTen (n : Nat) : Option Binary64 :=
  ofNat (tenTo n)

/-- Multiply a magnitude by a power of ten, in steps of at most `308` decades
when the exponent is negative.  `none` means the value is out of range. -/
def scaleTen : Nat → Binary64 → Int → Option Binary64
  | 0, x, _ => some x
  | fuel + 1, x, e =>
    if e.natAbs ≤ 308 then
      (powerOfTen e.natAbs).bind fun p => if 0 ≤ e then x.mul p else x.div p
    else if x.isZero then some x
    else if 0 ≤ e then none
    else (powerOfTen 308).bind fun p => (x.div p).bind fun y => scaleTen fuel y (e + 308)

/-- The double of a decimal significand and exponent.  Four steps of `308`
decades take every significand of 64 bits to zero. -/
def ofDecimal (significand : Nat) (e : Int) : Option Binary64 :=
  (ofNat significand).bind fun x => scaleTen 5 x e

end Binary64

end CanvasPress.Decimal
