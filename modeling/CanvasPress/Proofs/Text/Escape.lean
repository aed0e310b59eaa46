/-
# Escaped text

Escaping leaves no character that could open or close a tag or a quoted value, loses
nothing, and does not touch blanks: it can be undone, and where blanks stand in the
escaped text is where they stood before.  Numbers need no escaping, because they are
written in digits.
-/

import CanvasPress.Text.Blank
import CanvasPress.Text.Escape
import CanvasPress.Text.Number
import Mathlib.Tactic.Common

namespace CanvasPress.Text

/-- The characters that open and close tags and quoted values. -/
def isMarkup (c : Char) : Bool :=
  c = '<' || c = '>' || c = '"' || c = '\''

/-- Escaping writes a character as an entity, or as it is if it is no markup and cannot be
mistaken for the beginning of an entity. -/
theorem escapeChar_cases (c : Char) :
    (escapeChar c ∈ entities ∧ isBlank c = false) ∨
      (c ≠ '&' ∧ isMarkup c = false ∧ escapeChar c = [c]) := by
  by_cases hamp : c = '&'
  · subst hamp; exact .inl (by decide)
  by_cases hlt : c = '<'
  · subst hlt; exact .inl (by decide)
  by_cases hgt : c = '>'
  · subst hgt; exact .inl (by decide)
  by_cases hquote : c = '"'
  · subst hquote; exact .inl (by decide)
  by_cases hapostrophe : c = '\''
  · subst hapostrophe; exact .inl (by decide)
  refine .inr ⟨hamp, ?_, ?_⟩
  · simp [isMarkup, hlt, hgt, hquote, hapostrophe]
  · rw [escapeChar, if_neg hamp, if_neg hlt, if_neg hgt, if_neg hquote, if_neg hapostrophe]

/-- An entity holds neither markup nor blanks. -/
theorem entity_plain : ∀ entity ∈ entities, entity ≠ [] ∧
    ∀ c ∈ entity, isMarkup c = false ∧ isBlank c = false := by
  have hall : (entities.all fun entity => !entity.isEmpty &&
      entity.all fun c => !isMarkup c && !isBlank c) = true := by decide
  simpa using hall

theorem escapeList_cons (c : Char) (s : List Char) :
    escapeList (c :: s) = escapeChar c ++ escapeList s :=
  List.flatMap_cons

theorem toList_escape (s : String) : (escape s).toList = escapeList s.toList :=
  String.toList_ofList

/-! ## Markup -/

/-- Escaped text holds no markup. -/
theorem isMarkup_of_mem_escapeList {s : List Char} {c : Char} (h : c ∈ escapeList s) :
    isMarkup c = false := by
  obtain ⟨d, -, hd⟩ := List.mem_flatMap.1 h
  rcases escapeChar_cases d with ⟨hentity, -⟩ | ⟨-, hplain, hform⟩
  · exact ((entity_plain _ hentity).2 c hd).1
  · rw [hform, List.mem_singleton] at hd
    rwa [hd]

/-- A number is written in digits. -/
theorem isDigit_of_mem_decimal {n : Nat} {c : Char} (h : c ∈ (decimal n).toList) :
    c.isDigit = true := by
  rw [decimal, String.toList_ofList] at h
  exact Nat.isDigit_of_mem_toDigits (by decide) (by decide) h

theorem not_mem_decimal {c : Char} (h : c.isDigit = false) (n : Nat) :
    c ∉ (decimal n).toList := by
  intro hmem
  rw [isDigit_of_mem_decimal hmem] at h
  cases h

/-! ## Undoing it -/

theorem unescapeList_cons_of_ne {c : Char} (h : c ≠ '&') (rest : List Char) :
    unescapeList (c :: rest) = c :: unescapeList rest := by
  rw [unescapeList] <;> simp [h]

/-- The written form of a character is read back, whatever follows it. -/
theorem unescapeList_escapeChar_append (c : Char) (rest : List Char) :
    unescapeList (escapeChar c ++ rest) = c :: unescapeList rest := by
  by_cases hamp : c = '&'
  · subst hamp; rfl
  by_cases hlt : c = '<'
  · subst hlt; rfl
  by_cases hgt : c = '>'
  · subst hgt; rfl
  by_cases hquote : c = '"'
  · subst hquote; rfl
  by_cases hapostrophe : c = '\''
  · subst hapostrophe; rfl
  rw [escapeChar, if_neg hamp, if_neg hlt, if_neg hgt, if_neg hquote, if_neg hapostrophe]
  exact unescapeList_cons_of_ne hamp rest

/-- Escaping is undone by reading the entities back. -/
theorem unescapeList_escapeList (s : List Char) : unescapeList (escapeList s) = s := by
  induction s with
  | nil => rfl
  | cons c s ih => rw [escapeList_cons, unescapeList_escapeChar_append, ih]

theorem escapeList_injective : Function.Injective escapeList := by
  intro s s' h
  rw [← unescapeList_escapeList s, h, unescapeList_escapeList]

/-! ## Blanks -/

/-- A blank is written as it is. -/
theorem escapeChar_of_isBlank {c : Char} (h : isBlank c = true) : escapeChar c = [c] := by
  rcases escapeChar_cases c with ⟨-, hblank⟩ | ⟨-, -, hform⟩
  · rw [h] at hblank
    cases hblank
  · exact hform

/-- What is not blank is written without blanks, and as something. -/
theorem escapeChar_of_not_isBlank {c : Char} (h : isBlank c = false) :
    escapeChar c ≠ [] ∧ ∀ d ∈ escapeChar c, isBlank d = false := by
  rcases escapeChar_cases c with ⟨hentity, -⟩ | ⟨-, -, hform⟩
  · obtain ⟨hne, hplain⟩ := entity_plain _ hentity
    exact ⟨hne, fun d hd => (hplain d hd).2⟩
  · rw [hform]
    simpa using h

end CanvasPress.Text
