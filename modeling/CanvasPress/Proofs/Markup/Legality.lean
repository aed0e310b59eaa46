/-
# What markup may hold

A few characters may not stand in markup at all, not even as references.  All that names,
tags and references are made of may; so a written draft is free of such characters just if
the texts and the values in it are.
-/

import CanvasPress.Markup.Reference
import CanvasPress.Proofs.Markup.Draft
import Mathlib.Data.List.TakeWhile

namespace CanvasPress.Markup

open Text Draft

/-! ## Characters of names -/

theorem isLegal_of_within {ranges : List (Nat × Nat)} {c : Char} (h : within ranges c = true)
    (hranges : ∀ r ∈ ranges, 0x20 ≤ r.1 ∧ (r.2 < 0xFFFE ∨ 0xFFFF < r.1)) : isLegal c = true := by
  obtain ⟨r, hr, hc⟩ := List.any_eq_true.1 h
  simp only [Bool.and_eq_true, decide_eq_true_eq] at hc
  have hrange := hranges r hr
  simp only [isLegal, Bool.or_eq_true, Bool.and_eq_true, decide_eq_true_eq, ne_eq]
  right
  omega

/-- Markup may hold what may stand in a name. -/
theorem isLegal_of_isNameChar {c : Char} (h : isNameChar c = true) : isLegal c = true := by
  rw [isNameChar, Bool.or_eq_true] at h
  rcases h with hstart | hother
  · exact isLegal_of_within hstart (by decide)
  · exact isLegal_of_within hother (by decide)

theorem isQualifiedChar_of_isNameChar {c : Char} (h : isNameChar c = true) :
    isQualifiedChar c = true := by
  rw [isQualifiedChar, h, Bool.or_true]

/-- A character that is part of no name is not taken for one. -/
theorem ne_of_isNameChar {c d : Char} (h : isNameChar c = true) (hd : isNameChar d = false) :
    c ≠ d := by
  rintro rfl
  rw [h] at hd
  cases hd

theorem isSpace_of_isNameChar {c : Char} (h : isNameChar c = true) : isSpace c = false := by
  have hspaces : isSpace c = true → c = ' ' ∨ c = '\n' ∨ c = '\t' ∨ c = '\r' := by
    simp [isSpace, or_assoc]
  refine Bool.eq_false_iff.2 fun hspace => ?_
  rcases hspaces hspace with rfl | rfl | rfl | rfl <;> exact absurd h (by decide)

namespace Draft

variable {name : String}

/-- A name begins like one and goes on like one. -/
theorem IsName.eq_cons (h : IsName name) : ∃ c rest, name.toList = c :: rest ∧
    isNameChar c = true ∧ ∀ d ∈ rest, isNameChar d = true := by
  obtain ⟨hpart, hall⟩ := h
  cases hname : name.toList with
  | nil =>
      rw [hname] at hpart
      cases hpart
  | cons c rest =>
      rw [hname, List.all_cons, Bool.and_eq_true] at hall
      exact ⟨c, rest, rfl, hall.1, List.all_eq_true.1 hall.2⟩

theorem IsName.ofChars? (h : IsName name) : QName.ofChars? name.toList = some ⟨"", name⟩ := by
  have hcolon : ∀ c ∈ name.toList, decide (c ≠ ':') = true := fun c hc =>
    decide_eq_true (ne_of_isNameChar (List.all_eq_true.1 h.2 c hc) (by decide))
  have hbehind : name.toList.dropWhile (· ≠ ':') = [] :=
    List.dropWhile_eq_nil_iff.2 hcolon
  rw [QName.ofChars?, hbehind]
  simp only [h.1, if_true, String.ofList_toList]

end Draft

/-! ## Escaped characters -/

theorem areInside_of_all {name : List Char}
    (h : (name.all fun d => isLegal d && d ≠ ';') = true) :
    ∀ d ∈ name, isLegal d = true ∧ d ≠ ';' := by
  simpa using h

/-- An escaped character is a reference to it, unless it stands for itself. -/
theorem escapeChar_spelled (c : Char) :
    (∃ name, escapeChar c = '&' :: (name ++ [';']) ∧ (∀ d ∈ name, isLegal d = true ∧ d ≠ ';') ∧
        Reference.ofChars? name = some (.character c) ∧ isLegal c = true ∧ isSpace c = false) ∨
      (c ≠ '&' ∧ isMarkup c = false ∧ escapeChar c = [c]) := by
  rcases escapeChar_cases c with ⟨hentity, -⟩ | hself
  · left
    by_cases hamp : c = '&'
    · subst hamp; exact ⟨"amp".toList, rfl, areInside_of_all (by decide), by decide⟩
    by_cases hlt : c = '<'
    · subst hlt; exact ⟨"lt".toList, rfl, areInside_of_all (by decide), by decide⟩
    by_cases hgt : c = '>'
    · subst hgt; exact ⟨"gt".toList, rfl, areInside_of_all (by decide), by decide⟩
    by_cases hquote : c = '"'
    · subst hquote; exact ⟨"quot".toList, rfl, areInside_of_all (by decide), by decide⟩
    by_cases hapostrophe : c = '\''
    · subst hapostrophe; exact ⟨"#39".toList, rfl, areInside_of_all (by decide), by decide⟩
    rw [escapeChar, if_neg hamp, if_neg hlt, if_neg hgt, if_neg hquote, if_neg hapostrophe]
      at hentity
    have hlong : ∀ entity ∈ entities, entity.length ≠ 1 := by decide
    exact absurd rfl (hlong _ hentity)
  · exact .inr hself

/-- Escaping changes nothing about what markup may hold. -/
theorem isLegal_escapeList_iff (s : List Char) :
    (∀ c ∈ escapeList s, isLegal c = true) ↔ ∀ c ∈ s, isLegal c = true := by
  have hchar (c : Char) : (∀ d ∈ escapeChar c, isLegal d = true) ↔ isLegal c = true := by
    rcases escapeChar_spelled c with ⟨name, hform, hname, -, hlegal, -⟩ | ⟨-, -, hform⟩
    · refine iff_of_true (fun d hd => ?_) hlegal
      rw [hform] at hd
      simp only [List.mem_cons, List.mem_append, List.not_mem_nil, or_false] at hd
      rcases hd with rfl | hd | rfl
      · decide
      · exact (hname d hd).1
      · decide
    · rw [hform]
      simp
  constructor
  · intro h c hc
    exact (hchar c).1 fun d hd => h d (List.mem_flatMap.2 ⟨c, hc, hd⟩)
  · intro h d hd
    obtain ⟨c, hc, hd⟩ := List.mem_flatMap.1 hd
    exact (hchar c).2 (h c hc) d hd

/-! ## What markup may hold -/

namespace Draft

theorem IsName.isLegal {name : String} (h : IsName name) : ∀ c ∈ name.toList, isLegal c = true :=
  fun c hc => isLegal_of_isNameChar (List.all_eq_true.1 h.2 c hc)

theorem isLegal_writeAttribute_iff {a : String × String} (hname : IsName a.1) :
    (∀ c ∈ writeAttribute a, isLegal c = true) ↔ IsLegalText a.2 := by
  have hmarks : isLegal ' ' = true ∧ isLegal '=' = true ∧ isLegal '"' = true := by decide
  simp only [writeAttribute, List.forall_mem_append, List.forall_mem_cons, List.cons_append,
    hmarks, isLegal_escapeList_iff, true_and, List.not_mem_nil, false_implies, implies_true,
    and_true]
  exact and_iff_right hname.isLegal

theorem isLegal_opening_iff {name : String} {attributes : List (String × String)}
    (hname : IsName name) (hnames : ∀ a ∈ attributes, IsName a.1) :
    (∀ c ∈ opening name attributes, isLegal c = true) ↔ ∀ a ∈ attributes, IsLegalText a.2 := by
  have hmark : isLegal '<' = true := by decide
  simp only [opening, List.forall_mem_append, List.forall_mem_cons, List.cons_append, hmark,
    true_and]
  rw [and_iff_right hname.isLegal]
  constructor
  · intro h a ha
    exact (isLegal_writeAttribute_iff (hnames a ha)).1 fun c hc =>
      h c (List.mem_flatMap.2 ⟨a, ha, hc⟩)
  · intro h c hc
    obtain ⟨a, ha, hc⟩ := List.mem_flatMap.1 hc
    exact (isLegal_writeAttribute_iff (hnames a ha)).2 (h a ha) c hc

theorem isLegal_closing {name : String} (hname : IsName name) :
    ∀ c ∈ closing name, isLegal c = true := by
  have hmarks : isLegal '<' = true ∧ isLegal '/' = true ∧ isLegal '>' = true := by decide
  simp only [closing, List.forall_mem_append, List.forall_mem_cons, List.cons_append, hmarks,
    true_and, List.not_mem_nil, false_implies, implies_true, and_true]
  exact hname.isLegal

mutual

/-- Markup may hold a written draft just if it may hold the texts and values in it. -/
theorem isLegal_write_iff : ∀ (draft : Draft), draft.IsProper →
    ((∀ c ∈ draft.write, isLegal c = true) ↔ draft.IsLegal)
  | .text content, _ => isLegal_escapeList_iff content.toList
  | .leaf name attributes, hproper => by
      obtain ⟨hname, hattributes⟩ := hproper
      have hopening := isLegal_opening_iff hname fun a ha => (hattributes.1 a ha).1
      have hmarks : ∀ c ∈ ['/', '>'], isLegal c = true := List.all_eq_true.1 rfl
      rw [write, List.forall_mem_append, hopening, IsLegal]
      exact and_iff_left hmarks
  | .element name attributes children, hproper => by
      obtain ⟨hname, hattributes, hchildren⟩ := hproper
      have hopening := isLegal_opening_iff hname fun a ha => (hattributes.1 a ha).1
      have hmark : isLegal '>' = true := by decide
      rw [write, List.forall_mem_append, List.forall_mem_cons, List.forall_mem_append, hopening,
        isLegal_writeAll_iff children hchildren, and_iff_left (isLegal_closing hname),
        and_iff_right hmark, IsLegal]

theorem isLegal_writeAll_iff : ∀ (drafts : List Draft), AreProper drafts →
    ((∀ c ∈ writeAll drafts, isLegal c = true) ↔ AreLegal drafts)
  | [], _ => by simp [writeAll, AreLegal]
  | draft :: drafts, hproper => by
      rw [writeAll, List.forall_mem_append, isLegal_write_iff draft hproper.1,
        isLegal_writeAll_iff drafts hproper.2, AreLegal]

end

end Draft

end CanvasPress.Markup
