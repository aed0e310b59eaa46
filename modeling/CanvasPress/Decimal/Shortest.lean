/-
# Shortest decimal text of a double

The text of a double has the fewest significant digits that read back as the
same double, and of those texts the one nearest to it.  The interval of reals
that round to the double is kept as exact quotients.  A `Style` says where
positional writing ends; the two styles in use are `Style.message` and
`Style.plain`.
-/

import CanvasPress.Decimal.Binary64
import CanvasPress.Decimal.Power

namespace CanvasPress.Decimal

/-- Compare two quotients of natural numbers. -/
def ratioLe (a b : Nat × Nat) : Bool :=
  a.1 * b.2 ≤ b.1 * a.2

/-- Compare two quotients of natural numbers strictly. -/
def ratioLt (a b : Nat × Nat) : Bool :=
  a.1 * b.2 < b.1 * a.2

/-- Whether a nonnegative real, given as a quotient, rounds to the magnitude of
a positive double.  The ends of the interval belong to it exactly when the
mantissa is even. -/
def roundsTo (x : Binary64) (r : Nat × Nat) : Bool :=
  let upper := Binary64.scaleRatio (2 * x.mantissa + 1) 1 (x.exponent - 1)
  let lower :=
    if x.mantissa = twoTo 52 ∧ -1074 < x.exponent then
      Binary64.scaleRatio (4 * x.mantissa - 1) 1 (x.exponent - 2)
    else Binary64.scaleRatio (2 * x.mantissa - 1) 1 (x.exponent - 1)
  if x.mantissa % 2 = 0 then ratioLe lower r && ratioLe r upper
  else ratioLt lower r && ratioLt r upper

/-- The quotient `n * 10 ^ e`. -/
def decimalRatio (n : Nat) (e : Int) : Nat × Nat :=
  if 0 ≤ e then (n * tenTo e.toNat, 1) else (n, tenTo (-e).toNat)

/-- The number of decades of a positive quotient: the least `k` in the searched
range with `num / den < 10 ^ k`. -/
def decades (r : Nat × Nat) : Nat → Int → Int
  | 0, k => k
  | fuel + 1, k => if ratioLt r (decimalRatio 1 k) then k else decades r fuel (k + 1)

/-- The candidate with the given number of digits, if one of the two neighbours
on that grid reads back. -/
def onGrid? (x : Binary64) (top : Int) (digits : Nat) : Option (Nat × Int) :=
  let step := top - digits
  let (num, den) := x.ratio
  let (p, q) := decimalRatio 1 step
  let below := num * q / (den * p)
  let fits (n : Nat) : Bool := roundsTo x (decimalRatio n step)
  let nearer : Bool := 2 * (num * q % (den * p)) ≤ den * p
  match fits below && below != 0, fits (below + 1) with
  | true, true => some (if nearer then below else below + 1, step)
  | true, false => some (below, step)
  | false, true => some (below + 1, step)
  | false, false => none

/-- The shortest significand and exponent of a positive double: the first grid
of at most seventeen digits with a hit. -/
def shortest (x : Binary64) : Nat × Int :=
  let top := decades x.ratio 660 (-325)
  ((List.range 17).findSome? fun n => onGrid? x top (n + 1)).getD (x.mantissa, x.exponent)

/-- Digits without trailing zeros, with the exponent raised accordingly. -/
def dropZeros : Nat → Nat → Int → Nat × Int
  | 0, n, e => (n, e)
  | fuel + 1, n, e => if n % 10 = 0 ∧ n ≠ 0 then dropZeros fuel (n / 10) (e + 1) else (n, e)

/-- Where positional writing ends and whether a whole number keeps `.0`. -/
structure Style where
  /-- Least decimal exponent of the leading digit that is written positionally. -/
  low : Int
  /-- Greatest such exponent. -/
  high : Int
  /-- Whether whole numbers end in `.0`. -/
  keepPoint : Bool
deriving DecidableEq

/-- Floats quoted in error texts. -/
def Style.message : Style := ⟨-5, 15, true⟩

/-- Page sizes: always positional, whole numbers without a point. -/
def Style.plain : Style := ⟨-400, 400, false⟩

/-- Write digits positionally: the leading digit stands for `10 ^ lead`. -/
def positional (keepPoint : Bool) (digits : List Char) (lead : Int) : List Char :=
  if lead < 0 then
    "0.".toList ++ List.replicate (-lead - 1).toNat '0' ++ digits
  else
    let whole := lead.toNat + 1
    if digits.length ≤ whole then
      digits ++ List.replicate (whole - digits.length) '0' ++
        (if keepPoint then ".0".toList else [])
    else digits.take whole ++ '.' :: digits.drop whole

/-- Write digits with a signed exponent. -/
def scientific (digits : List Char) (lead : Int) : List Char :=
  let fraction := match digits with
    | [d] => [d]
    | d :: rest => d :: '.' :: rest
    | [] => []
  fraction ++ 'e' :: (if lead < 0 then '-' else '+') :: Nat.toDigits 10 lead.natAbs

/-- The text of a double in a style. -/
def Binary64.text (style : Style) (x : Binary64) : String :=
  let sign := if x.negative then ['-'] else []
  if x.isZero then String.ofList (sign ++ positional style.keepPoint ['0'] 0)
  else
    let (n, e) := shortest x
    let (n, e) := dropZeros 20 n e
    let digits := Nat.toDigits 10 n
    let lead := e + digits.length - 1
    let body :=
      if style.low ≤ lead ∧ lead ≤ style.high then positional style.keepPoint digits lead
      else scientific digits lead
    String.ofList (sign ++ body)

end CanvasPress.Decimal
