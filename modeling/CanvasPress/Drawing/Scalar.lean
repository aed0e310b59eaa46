/-
# Coordinates

Coordinates are rounded to single precision after each operation.
-/

import CanvasPress.Drawing.Precision

namespace CanvasPress.Drawing

/-- A coordinate, by the rational number that it is. -/
structure Scalar where
  value : Rat
deriving DecidableEq

namespace Scalar

/-- The coordinate nearest to a number. -/
def ofRat (x : Rat) : Scalar :=
  ⟨Precision.single.nearest x⟩

instance : OfNat Scalar n := ⟨ofRat n⟩
instance : Inhabited Scalar := ⟨0⟩
instance : Add Scalar := ⟨fun x y => ofRat (x.value + y.value)⟩
instance : Sub Scalar := ⟨fun x y => ofRat (x.value - y.value)⟩
instance : Mul Scalar := ⟨fun x y => ofRat (x.value * y.value)⟩
instance : Div Scalar := ⟨fun x y => ofRat (x.value / y.value)⟩
instance : Neg Scalar := ⟨fun x => ⟨-x.value⟩⟩
instance : LE Scalar := ⟨fun x y => x.value ≤ y.value⟩
instance : LT Scalar := ⟨fun x y => x.value < y.value⟩
instance (x y : Scalar) : Decidable (x ≤ y) := inferInstanceAs (Decidable (x.value ≤ y.value))
instance (x y : Scalar) : Decidable (x < y) := inferInstanceAs (Decidable (x.value < y.value))

/-- Whether a coordinate is in range. -/
def isFinite (x : Scalar) : Bool :=
  Precision.single.isFinite x.value

/-- The smaller of two coordinates. -/
def least (x y : Scalar) : Scalar :=
  if x ≤ y then x else y

/-- The larger of two coordinates. -/
def greatest (x y : Scalar) : Scalar :=
  if x ≤ y then y else x

/-- The distance from zero. -/
def size (x : Scalar) : Scalar :=
  if x < 0 then -x else x

/-- The coordinate nearest to the root of one that is not negative. -/
def sqrt (x : Scalar) : Scalar :=
  .ofRat (root x.value)

/-- The coordinate between zero and one that is nearest. -/
def clamped (x : Scalar) : Scalar :=
  (x.greatest 0).least 1

/-- The integer part of the coordinate times an integer, toward zero. -/
def scaled (x : Scalar) (factor : Int) : Int :=
  let y := x.value * factor
  if y < 0 then -((-y).floor) else y.floor

end Scalar

end CanvasPress.Drawing
