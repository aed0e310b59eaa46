/-
# Whole numbers in drawings

Numbers in drawings are rounded when they are read and again when they become coordinates.
A whole number with no more bits than the precision has is a multiple of the distance between
the numbers around it, so rounding leaves it alone: the size that a canvas is given in decimal
is the size that its drawing has.
-/

import CanvasPress.Drawing.Length
import CanvasPress.Drawing.Shape
import CanvasPress.Proofs.Text.Escape
import Mathlib.Data.List.TakeWhile
import Mathlib.Data.Rat.Floor
import Mathlib.Tactic.FieldSimp

namespace CanvasPress.Drawing

open Text Markup

/-! ## Rounding -/

/-- An integer is the nearest one. -/
theorem roundEven_intCast (n : Int) : roundEven (n : Rat) = n := by
  have hfloor : (n : Rat).floor = n := Rat.floor_intCast n
  have hhalf : (0 : Rat) < 1 / 2 := by norm_num
  simp only [roundEven, hfloor, sub_self, if_pos hhalf]

theorem powTwo_natCast (n : Nat) : powTwo n = 2 ^ n := by
  rw [powTwo, if_pos (Int.natCast_nonneg n), Int.toNat_natCast, twoTo]
  exact Nat.cast_pow 2 n

/-- A power of two is the inverse of a whole number, unless it is one. -/
theorem powTwo_of_nonpos {e : Int} (h : e ≤ 0) : powTwo e = 1 / 2 ^ (-e).toNat := by
  rcases h.eq_or_lt with rfl | hneg
  · rw [← Int.natCast_zero, powTwo_natCast]
    norm_num
  · rw [powTwo, if_neg (not_le.2 hneg), twoTo]
    congr 1
    exact Nat.cast_pow 2 _

/-- The exponent of a whole number is the number of its bits behind the first. -/
theorem exponent_natCast {n : Nat} (h : n ≠ 0) : exponent (n : Rat) = (n.log2 : Int) := by
  have hguess : (Nat.log2 (n : Rat).num.natAbs : Int) - (Nat.log2 (n : Rat).den : Int) =
      (n.log2 : Int) := by
    have hone : Nat.log2 1 = 0 := by decide
    rw [Rat.num_natCast, Rat.den_natCast, Int.natAbs_natCast, hone]
    simp
  have hle : powTwo (n.log2 : Int) ≤ (n : Rat) := by
    rw [powTwo_natCast]
    exact_mod_cast Nat.log2_self_le h
  simp only [exponent, hguess, if_pos hle]

theorem magnitude_natCast (n : Nat) : magnitude (n : Rat) = n :=
  if_neg (not_lt.2 (Nat.cast_nonneg n))

namespace Precision

/-- Rounding leaves a whole number alone that fits into the precision. -/
theorem nearest_natCast {p : Precision} (hfinest : p.finest ≤ 0) {n : Nat} (h : n < 2 ^ p.bits) :
    p.nearest (n : Rat) = n := by
  by_cases hzero : n = 0
  · subst hzero
    rfl
  have hnonzero : (n : Rat) ≠ 0 := Nat.cast_ne_zero.2 hzero
  have hbits : n.log2 < p.bits := (Nat.log2_lt hzero).2 h
  have hexponent : max ((n.log2 : Int) - (p.bits - 1)) p.finest ≤ 0 := by
    omega
  generalize hplace : max ((n.log2 : Int) - (p.bits - 1)) p.finest = place at hexponent
  have hquantum := powTwo_of_nonpos hexponent
  generalize (-place).toNat = places at hquantum
  have hpower : (2 : Rat) ^ places ≠ 0 := pow_ne_zero _ two_ne_zero
  have hscaled : (n : Rat) / powTwo place = ((n * 2 ^ places : Int) : Rat) := by
    rw [hquantum, div_div_eq_mul_div, div_one]
    push_cast
    rfl
  have hback : ((n * 2 ^ places : Int) : Rat) * powTwo place = n := by
    rw [hquantum]
    push_cast
    field_simp
  simp only [nearest, if_neg hnonzero, magnitude_natCast, exponent_natCast hzero, hplace, hscaled,
    roundEven_intCast, hback]

theorem isFinite_natCast {p : Precision} {n : Nat} (h : n < 2 ^ p.limit) :
    p.isFinite (n : Rat) = true := by
  rw [isFinite, magnitude_natCast, decide_eq_true_iff]
  exact_mod_cast h

end Precision

/-! ## Reading decimals -/

/-- The value of written digits is the number. -/
theorem digitsValue_toDigits (n : Nat) : digitsValue (Nat.toDigits 10 n) = n := by
  have hvalue : Nat.ofDigitChars 10 (Nat.toDigits 10 n) 0 = n := Nat.ofDigitChars_ten_toDigits
  rwa [Nat.ofDigitChars_eq_foldl] at hvalue

/-- A number in decimal is read as it is, and nothing is left. -/
theorem readNumber?_decimal {n : Nat} (h : n < 2 ^ 53) :
    readNumber? (decimal n).toList = some ((n : Rat), []) := by
  have hdigits : ∀ c ∈ Nat.toDigits 10 n, c.isDigit = true := fun _ hc =>
    Nat.isDigit_of_mem_toDigits (by decide) (by decide) hc
  have hvalue := digitsValue_toDigits n
  rw [decimal, String.toList_ofList]
  cases hform : Nat.toDigits 10 n with
  | nil => exact absurd hform Nat.toDigits_ne_nil
  | cons d ds =>
      rw [hform] at hdigits hvalue
      have hne {c : Char} (hc : c.isDigit = false) : d ≠ c := by
        rintro rfl
        rw [hdigits d List.mem_cons_self] at hc
        cases hc
      have hspace : skipSpace (d :: ds) = d :: ds := by
        refine List.dropWhile_cons_of_neg ?_
        simp [isSpace, hne (c := ' ') (by decide), hne (c := '\n') (by decide),
          hne (c := '\t') (by decide), hne (c := '\r') (by decide)]
      have hsign : splitSign (d :: ds) = (false, d :: ds) := by
        rw [splitSign]
        · exact fun _ heq => hne (by decide) (List.cons.inj heq).1
        · exact fun _ heq => hne (by decide) (List.cons.inj heq).1
      have hsplit : splitDigits (d :: ds) = (d :: ds, []) := by
        rw [splitDigits, List.takeWhile_eq_self_iff.2 hdigits, List.dropWhile_eq_nil_iff.2 hdigits]
      have hten : timesTen (n : Rat) (0 - (([] : List Char).length : Int)) = n := by
        simp [timesTen, tenTo]
      have hexponent : splitExponent? [] = some (0, []) := rfl
      have hnearest : Precision.double.nearest (n : Rat) = n :=
        Precision.nearest_natCast (by decide) h
      have hfinite : Precision.double.isFinite (n : Rat) = true :=
        Precision.isFinite_natCast (h.trans (Nat.pow_lt_pow_right (by decide) (by decide)))
      simp only [readNumber?, hspace, hsign, hsplit, List.append_nil, List.isEmpty_cons,
        Bool.false_and, Bool.false_eq_true, if_false, hexponent, Option.bind_eq_bind,
        Option.bind_some, hvalue, hten, hnearest, if_pos hfinite]

theorem ofText?_decimal {n : Nat} (h : n < 2 ^ 53) :
    Length.ofText? (decimal n) = some ⟨n, .none⟩ := by
  rw [Length.ofText?, readNumber?_decimal h]
  rfl

/-- A positive number of pixels is an extent. -/
theorem isExtent_natCast {n : Nat} (hpos : 0 < n) (h : n < 2 ^ 24) :
    Shape.isExtent (.ofRat n) = true := by
  have hvalue : (Scalar.ofRat (n : Rat)).value = n := Precision.nearest_natCast (by decide) h
  have hfinite : (Scalar.ofRat (n : Rat)).isFinite = true := by
    rw [Scalar.isFinite, hvalue]
    exact Precision.isFinite_natCast (h.trans (by decide))
  have hpositive : (0 : Scalar) < .ofRat n := by
    show (0 : Scalar).value < (Scalar.ofRat (n : Rat)).value
    rw [hvalue]
    have hzero : (0 : Scalar).value = 0 := rfl
    rw [hzero]
    exact_mod_cast hpos
  rw [Shape.isExtent, hfinite, decide_eq_true hpositive]
  rfl

end CanvasPress.Drawing
