/-
# The order of texts and of their bytes

Texts are compared letter by letter, and their UTF-8 forms byte by byte; both come to the same.
A greater letter has no shorter form, the first byte of a form grows with its length, and the
bytes of two forms of one length are the digits of the letters, the highest first.
-/

import CanvasPress.Text.Bytes
import Mathlib.Data.String.Basic

namespace CanvasPress.Text

/-- The bytes of the UTF-8 form of a text. -/
def utf8 (s : String) : List UInt8 :=
  s.toUTF8.data.toList

theorem utf8_eq_flatMap (s : String) : utf8 s = s.toList.flatMap String.utf8EncodeChar := by
  have hbytes : s.toUTF8 = s.toList.utf8Encode := by
    rw [String.toUTF8, String.utf8Encode_toList]
  rw [utf8, hbytes, List.utf8Encode, List.data_toByteArray]

theorem toNat_val_lt (c : Char) : c.val.toNat < 1114112 := by
  rcases c.valid with h | ⟨-, h⟩
  · exact Nat.lt_trans h (by decide)
  · exact h

/-- The forms of two letters differ before either of them ends, and as the letters do. -/
theorem utf8EncodeChar_append_lt {c d : Char} (h : c < d) (rest rest' : List UInt8) :
    String.utf8EncodeChar c ++ rest < String.utf8EncodeChar d ++ rest' := by
  have hless : c.val.toNat < d.val.toNat := h
  have hlast := toNat_val_lt d
  unfold String.utf8EncodeChar
  generalize c.val.toNat = n at hless
  generalize d.val.toNat = m at hless hlast
  dsimp only
  -- One case for each pair of lengths; in each of them bytes are compared as numbers.
  split_ifs <;>
    simp (disch := omega) only [List.cons_append, List.nil_append, List.cons_lt_cons_iff,
      UInt8.lt_iff_toNat_lt, ← UInt8.toNat_inj, UInt8.toNat_ofNat', Nat.mod_eq_of_lt] <;>
    omega

theorem flatMap_utf8EncodeChar_lt {s t : List Char} (h : s < t) :
    s.flatMap String.utf8EncodeChar < t.flatMap String.utf8EncodeChar := by
  induction h with
  | @nil d t =>
      have hform : String.utf8EncodeChar d ≠ [] := String.utf8EncodeChar_ne_nil
      obtain ⟨byte, bytes, hform⟩ := List.exists_cons_of_ne_nil hform
      rw [List.flatMap_nil, List.flatMap_cons, hform]
      exact List.nil_lt_cons _ _
  | rel h =>
      rw [List.flatMap_cons, List.flatMap_cons]
      exact utf8EncodeChar_append_lt h _ _
  | cons _ ih =>
      rw [List.flatMap_cons, List.flatMap_cons]
      exact List.append_left_lt ih

/-- Of two texts the one is less just if its bytes are. -/
theorem utf8_lt_iff {s t : String} : utf8 s < utf8 t ↔ s < t := by
  have hmono {s t : String} (h : s < t) : utf8 s < utf8 t := by
    rw [utf8_eq_flatMap, utf8_eq_flatMap]
    exact flatMap_utf8EncodeChar_lt h
  refine ⟨fun h => ?_, hmono⟩
  rcases lt_trichotomy s t with hless | rfl | hgreater
  · exact hless
  · exact absurd h (List.lt_irrefl _)
  · exact absurd h (List.lt_asymm (hmono hgreater))

end CanvasPress.Text
