/-
# Powers of two and ten

The powers in which ranges, exponents and digits are counted.
-/

namespace CanvasPress

/-- A power of two. -/
def twoTo (n : Nat) : Nat :=
  Nat.pow 2 n

/-- A power of ten. -/
def tenTo (n : Nat) : Nat :=
  Nat.pow 10 n

end CanvasPress
