/-
# Rounded arithmetic

Numbers in drawings are rational numbers with so many significant bits, and every
operation rounds its exact result to the nearest one, ties to even.  Rationals
keep the arithmetic open to proof; the rounding makes shapes fall on the same
pixels as binary arithmetic of the same precision does.
-/

import CanvasPress.Decimal.Power

namespace CanvasPress.Drawing

/-- The nearest integer, a half going to the even neighbour. -/
def roundEven (x : Rat) : Int :=
  let low := x.floor
  let rest := x - low
  if rest < 1 / 2 then low
  else if 1 / 2 < rest then low + 1
  else low + low % 2

/-- A power of two as a rational number. -/
def powTwo (e : Int) : Rat :=
  if 0 ≤ e then twoTo e.toNat else 1 / twoTo (-e).toNat

/-- The exponent of the greatest power of two that is no larger than a positive
number. -/
def exponent (x : Rat) : Int :=
  let guess : Int := (Nat.log2 x.num.natAbs : Int) - (Nat.log2 x.den : Int)
  if powTwo guess ≤ x then guess else guess - 1

/-- The distance from zero. -/
def magnitude (x : Rat) : Rat :=
  if x < 0 then -x else x

/-- A number with its digits behind so many binary places cut off. -/
def truncated (places : Nat) (x : Rat) : Rat :=
  (x * twoTo places).floor / twoTo places

/-- How numbers are rounded. -/
structure Precision where
  /-- The number of significant bits. -/
  bits : Nat
  /-- The exponent of the smallest positive number. -/
  finest : Int
  /-- The exponent of the first power of two that is out of range. -/
  limit : Nat
deriving DecidableEq

namespace Precision

/-- The precision of coordinates. -/
def single : Precision :=
  ⟨24, -149, 128⟩

/-- The precision in which numbers are read. -/
def double : Precision :=
  ⟨53, -1074, 1024⟩

/-- The nearest number. -/
def nearest (p : Precision) (x : Rat) : Rat :=
  if x = 0 then 0
  else
    let quantum := powTwo (max (exponent (magnitude x) - (p.bits - 1)) p.finest)
    roundEven (x / quantum) * quantum

/-- Whether a number is in range. -/
def isFinite (p : Precision) (x : Rat) : Bool :=
  magnitude x < twoTo p.limit

end Precision

/-! ## Roots and angles -/

/-- The greatest natural number whose square is no larger. -/
def squareRoot (n : Nat) : Nat :=
  (List.range (n.log2 / 2 + 1)).foldr
    (fun i r => if (r + twoTo i) * (r + twoTo i) ≤ n then r + twoTo i else r) 0

/-- The square root of a nonnegative number to so many binary places. -/
def rootTo (places : Nat) (x : Rat) : Rat :=
  (squareRoot (x * twoTo (2 * places)).floor.toNat : Nat) / twoTo places

/-- The number of binary places in which roots, sines and cosines are found. -/
def workingPlaces : Nat := 160

/-- The square root of a nonnegative number, far below any rounding. -/
def root (x : Rat) : Rat :=
  rootTo workingPlaces x

/-- A sine and a cosine. -/
structure Direction where
  sine : Rat
  cosine : Rat
deriving Inhabited

namespace Direction

/-- The direction of an angle below one, by so many terms of the power series.
`n` terms are behind, and `term` is the next one up to sign. -/
def series : (fuel : Nat) → Nat → Rat → Rat → Direction
  | 0, _, _, _ => ⟨0, 0⟩
  | fuel + 1, n, angle, term =>
    let rest := series fuel (n + 1) angle (truncated workingPlaces (term * angle / (n + 1 : Nat)))
    let signed := if n % 4 < 2 then term else -term
    if n % 2 = 0 then ⟨rest.sine, rest.cosine + signed⟩
    else ⟨rest.sine + signed, rest.cosine⟩

/-- The direction of twice the angle. -/
def doubled (d : Direction) : Direction :=
  ⟨truncated workingPlaces (2 * d.sine * d.cosine),
    truncated workingPlaces (d.cosine * d.cosine - d.sine * d.sine)⟩

/-- The direction of an angle, which is halved until it is small. -/
def ofAngle (angle : Rat) : Direction :=
  let halvings := (magnitude angle).floor.toNat.log2 + 2
  (List.range halvings).foldl (fun d _ => d.doubled)
    (series 40 0 (angle / twoTo halvings) 1)

end Direction

end CanvasPress.Drawing
