/-
# Texts up to the case of ASCII letters

Texts are compared by lowering their ASCII letters.  Said without lowering anything, two
texts are the same up to case when they agree position by position, where the two cases of
one of the twenty-six ASCII letters count as one: letters outside ASCII keep their case, and
no text is the same as a longer one.
-/

import CanvasPress.Text.Ascii
import Mathlib.Data.List.Forall2
import Mathlib.Tactic.Common

namespace CanvasPress.Text

/-- A capital letter of ASCII and the small letter to it. -/
def IsCapitalOf (capital small : Char) : Prop :=
  'A' ≤ capital ∧ capital ≤ 'Z' ∧ small.toNat = capital.toNat + 32

/-- The same character, or an ASCII letter in its two cases. -/
def SameLetter (c d : Char) : Prop :=
  c = d ∨ IsCapitalOf c d ∨ IsCapitalOf d c

/-- Texts that agree position by position up to the case of ASCII letters. -/
def SameUpToCase (s t : String) : Prop :=
  List.Forall₂ SameLetter s.toList t.toList

/-! ## Characters -/

theorem le_iff_toNat_le {c d : Char} : c ≤ d ↔ c.toNat ≤ d.toNat :=
  UInt32.le_iff_toNat_le

/-- Lowering moves the capital letters and nothing else. -/
theorem toNat_toLower (c : Char) :
    c.toLower.toNat = if 65 ≤ c.toNat ∧ c.toNat ≤ 90 then c.toNat + 32 else c.toNat := by
  have hcapital : c.val ≥ 'A'.val ∧ c.val ≤ 'Z'.val ↔ 65 ≤ c.toNat ∧ c.toNat ≤ 90 :=
    and_congr UInt32.le_iff_toNat_le UInt32.le_iff_toNat_le
  by_cases h : c.val ≥ 'A'.val ∧ c.val ≤ 'Z'.val
  · have hlower : c.toLower.val = c.val + ('a'.val - 'A'.val) := congrArg Char.val (dif_pos h)
    have hgap : ('a'.val - 'A'.val).toNat = 32 := by decide
    have hrange := hcapital.1 h
    rw [if_pos hrange, Char.toNat, hlower, UInt32.toNat_add, hgap, Nat.mod_eq_of_lt]
    · rfl
    · exact Nat.lt_of_le_of_lt (Nat.add_le_add_right hrange.2 32) (by decide)
  · have hlower : c.toLower = c := dif_neg h
    rw [if_neg (mt hcapital.2 h), hlower]

theorem isCapitalOf_iff {c d : Char} :
    IsCapitalOf c d ↔ 65 ≤ c.toNat ∧ c.toNat ≤ 90 ∧ d.toNat = c.toNat + 32 := by
  rw [IsCapitalOf, le_iff_toNat_le, le_iff_toNat_le]
  exact Iff.rfl

theorem sameLetter_iff {c d : Char} : SameLetter c d ↔ c.toLower = d.toLower := by
  rw [SameLetter, isCapitalOf_iff, isCapitalOf_iff, ← Char.toNat_inj, ← Char.toNat_inj,
    toNat_toLower, toNat_toLower]
  split_ifs <;> omega

/-! ## Texts -/

/-- Lowering tells texts apart just if they differ in more than case. -/
theorem lowerAscii_eq_iff {s t : String} : lowerAscii s = lowerAscii t ↔ SameUpToCase s t := by
  have hletters : SameLetter = fun c d => c.toLower = d.toLower :=
    funext₂ fun c d => propext sameLetter_iff
  rw [lowerAscii, lowerAscii, String.ofList_inj, ← List.forall₂_eq_eq_eq,
    List.forall₂_map_left_iff, List.forall₂_map_right_iff, SameUpToCase, hletters]

theorem sameAscii_iff {s t : String} : sameAscii s t = true ↔ SameUpToCase s t := by
  rw [sameAscii, beq_iff_eq, lowerAscii_eq_iff]

instance (s t : String) : Decidable (SameUpToCase s t) :=
  decidable_of_iff _ sameAscii_iff

theorem SameUpToCase.symm {s t : String} (h : SameUpToCase s t) : SameUpToCase t s :=
  lowerAscii_eq_iff.1 (lowerAscii_eq_iff.2 h).symm

theorem SameUpToCase.trans {s t u : String} (h : SameUpToCase s t) (h' : SameUpToCase t u) :
    SameUpToCase s u :=
  lowerAscii_eq_iff.1 ((lowerAscii_eq_iff.2 h).trans (lowerAscii_eq_iff.2 h'))

/-- A character that is no ASCII letter stands in a text if it stands in one that is the same
up to case. -/
theorem SameUpToCase.mem {s t : String} (h : SameUpToCase s t) {c : Char}
    (hc : ∀ d, SameLetter d c → d = c) (hmem : c ∈ t.toList) : c ∈ s.toList := by
  obtain ⟨i, hi, hget⟩ := List.getElem_of_mem hmem
  have hlength : i < s.toList.length := h.length_eq ▸ hi
  have hletter := h.get hlength hi
  rw [List.get_eq_getElem, List.get_eq_getElem, hget] at hletter
  exact hc _ hletter ▸ List.getElem_mem hlength

end CanvasPress.Text
