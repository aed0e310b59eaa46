/-
# Slots of built-in templates

The built-in templates are built in pieces, and filling finds the pieces again: where no
text holds an opening brace and every slot has a name, the filled template is made of the
texts of its pieces and of what fills its slots.  All built-in templates are such, in each
theme.
-/

import CanvasPress.Proofs.Template.Substitution
import CanvasPress.Proofs.Text.Escape
import CanvasPress.Template.Builtin

namespace CanvasPress

open Template Text

/-! ## Pieces -/

/-- Nothing in a text is taken for a slot, and a slot is taken for what it is. -/
def Piece.IsPlain : Piece → Prop
  | .text content => '\x7b' ∉ content.toList
  | .slot name => name.toList ≠ [] ∧ name.toList.all isNameChar = true

/-- A piece with its slot filled; without a value the slot stays as it is written. -/
def Piece.fill (value? : String → Option String) : Piece → List Char
  | .text content => content.toList
  | .slot name => ((value? name).getD (slotText name)).toList

/-- A slot is written as a placeholder. -/
theorem Piece.spells_slotText {name : String} (h : (Piece.slot name).IsPlain) :
    Spells name.toList (slotText name).toList := by
  refine ⟨h.1, List.all_eq_true.1 h.2, [], [], by simp, by simp, ?_⟩
  rw [slotText, String.toList_append, String.toList_append, List.nil_append, List.append_nil]
  rfl

theorem Template.fill_append_of_not_mem (value? : String → Option String) {s : List Char}
    (h : '\x7b' ∉ s) (rest : List Char) : fill value? (s ++ rest) = s ++ fill value? rest := by
  induction s with
  | nil => rfl
  | cons c s ih =>
      rw [List.mem_cons, not_or] at h
      have hnone : placeholder? (c :: (s ++ rest)) = none := by
        rw [placeholder?]
        intro inside hc
        exact h.1 (List.cons.inj hc).1.symm
      rw [List.cons_append, fill_cons_of_none value? hnone, ih h.2, List.cons_append]

/-- Filling finds the pieces of a template again. -/
theorem Template.fill_writeAll (value? : String → Option String) {pieces : List Piece}
    (h : ∀ piece ∈ pieces, piece.IsPlain) :
    fill value? (Piece.writeAll pieces).toList = pieces.flatMap (Piece.fill value?) := by
  rw [Piece.writeAll, String.toList_join, List.flatMap_map]
  induction pieces with
  | nil => exact fill_nil value?
  | cons piece pieces ih =>
      have hpiece := h piece List.mem_cons_self
      rw [List.flatMap_cons, List.flatMap_cons,
        ← ih fun other hother => h other (List.mem_cons_of_mem _ hother)]
      cases piece with
      | text content => exact fill_append_of_not_mem value? hpiece _
      | slot name =>
          rw [Piece.write, fill_of_spells value? (Piece.spells_slotText hpiece), Token.fill,
            String.ofList_toList, Piece.fill]
          cases value? name <;> rfl

/-! ## Built-in templates -/

/-- No opening brace is in a theme. -/
def Theme.IsPlain (theme : Theme) : Prop :=
  '\x7b' ∉ theme.background.toList ∧ '\x7b' ∉ theme.panel.toList ∧
    '\x7b' ∉ theme.stroke.toList ∧ '\x7b' ∉ theme.heading.toList ∧
    '\x7b' ∉ theme.text.toList ∧ '\x7b' ∉ theme.accent.toList ∧ '\x7b' ∉ theme.fontFamily.toList

instance (theme : Theme) : Decidable theme.IsPlain :=
  inferInstanceAs (Decidable (_ ∧ _))

/-- A character is nowhere in what a theme puts into templates. -/
def Theme.Lacks (theme : Theme) (c : Char) : Prop :=
  c ∉ theme.background.toList ∧ c ∉ theme.panel.toList ∧ c ∉ theme.stroke.toList ∧
    c ∉ theme.heading.toList ∧ c ∉ theme.text.toList ∧ c ∉ theme.accent.toList ∧
      c ∉ theme.fontFamily.toList

instance (theme : Theme) (c : Char) : Decidable (theme.Lacks c) :=
  inferInstanceAs (Decidable (_ ∧ _))

theorem Theme.ofName_mem (name : String) : ofName name ∈ all := by
  rw [ofName]
  cases h : all.find? fun theme => sameAscii theme.name name with
  | none => exact List.mem_cons_self
  | some theme => exact List.mem_of_find?_eq_some h

theorem Theme.isPlain_ofName (name : String) : (ofName name).IsPlain := by
  have hall : ∀ theme ∈ all, theme.IsPlain := by decide +kernel
  exact hall _ (ofName_mem name)

/-- No theme puts braces into templates. -/
theorem Theme.lacks_ofName {brace : Char} (hbrace : brace = '\x7b' ∨ brace = '\x7d')
    (name : String) : (ofName name).Lacks brace := by
  have hall : ∀ theme ∈ all, theme.Lacks '\x7b' ∧ theme.Lacks '\x7d' := by decide +kernel
  rcases hbrace with rfl | rfl
  · exact (hall _ (ofName_mem name)).1
  · exact (hall _ (ofName_mem name)).2

/-- The key of a block can name a slot, and its title holds no opening brace. -/
theorem Layout.isPlain_of_mem {kind : Kind} {block : Block} (h : block ∈ blocks kind) :
    (Piece.slot block.key).IsPlain ∧ '\x7b' ∉ block.title.toList := by
  have hall : ∀ block ∈ blocks kind, (block.key.toList ≠ [] ∧
      block.key.toList.all isNameChar = true) ∧ '\x7b' ∉ block.title.toList := by
    cases kind <;> decide +kernel
  exact hall block h

theorem Layout.not_mem_title_of_mem {brace : Char} (hbrace : brace = '\x7b' ∨ brace = '\x7d')
    {kind : Kind} {block : Block} (h : block ∈ blocks kind) : brace ∉ block.title.toList := by
  have hall : ∀ block ∈ blocks kind,
      '\x7b' ∉ block.title.toList ∧ '\x7d' ∉ block.title.toList := by
    cases kind <;> decide +kernel
  rcases hbrace with rfl | rfl
  · exact (hall block h).1
  · exact (hall block h).2

/-- The text between the slots in front of the blocks holds no braces. -/
theorem Template.not_mem_of_mem_opening {brace : Char} (hbrace : brace = '\x7b' ∨ brace = '\x7d')
    {theme : Theme} (htheme : theme.Lacks brace) {content : String}
    (h : .text content ∈ opening theme) : brace ∉ content.toList := by
  obtain ⟨hbackground, hpanel, hstroke, hheading, htext, haccent, hfont⟩ := htheme
  have hdecimal (n : Nat) : brace ∉ (decimal n).toList :=
    not_mem_decimal (by rcases hbrace with rfl | rfl <;> decide) n
  unfold opening at h
  simp only [List.mem_cons, List.not_mem_nil, or_false, Piece.text.injEq, reduceCtorEq,
    false_or] at h
  rcases h with rfl | rfl | rfl | rfl | rfl | rfl
  all_goals simp -failIfUnchanged only [String.toList_append, List.mem_append, hdecimal,
    hbackground, hheading, htext, haccent, hfont, or_false]
  all_goals rcases hbrace with rfl | rfl <;> decide +kernel

/-- The text around the slot of a block holds no braces. -/
theorem Template.not_mem_of_mem_blockPieces {brace : Char}
    (hbrace : brace = '\x7b' ∨ brace = '\x7d') {theme : Theme} (htheme : theme.Lacks brace)
    {kind : Kind} {block : Block} (hblock : block ∈ Layout.blocks kind) {content : String}
    (h : .text content ∈ blockPieces theme block) : brace ∉ content.toList := by
  obtain ⟨hbackground, hpanel, hstroke, hheading, htext, haccent, hfont⟩ := htheme
  have hdecimal (n : Nat) : brace ∉ (decimal n).toList :=
    not_mem_decimal (by rcases hbrace with rfl | rfl <;> decide) n
  have htitle := Layout.not_mem_title_of_mem hbrace hblock
  have hkey : brace ∉ block.key.toList := fun hmem =>
    absurd (List.all_eq_true.1 (Layout.isPlain_of_mem hblock).1.2 _ hmem)
      (by rcases hbrace with rfl | rfl <;> decide)
  unfold blockPieces at h
  simp only [List.mem_cons, List.not_mem_nil, or_false, Piece.text.injEq, reduceCtorEq,
    false_or] at h
  rcases h with rfl | rfl
  · simp only [String.toList_append, List.mem_append, hdecimal, hkey, htitle, hpanel, hstroke,
      hheading, htext, or_false]
    rcases hbrace with rfl | rfl <;> decide +kernel
  · rcases hbrace with rfl | rfl <;> decide

theorem Template.isPlain_of_mem_opening {theme : Theme} (htheme : theme.IsPlain) {piece : Piece}
    (h : piece ∈ opening theme) : piece.IsPlain := by
  cases piece with
  | text content => exact not_mem_of_mem_opening (.inl rfl) htheme h
  | slot name =>
      unfold opening at h
      simp only [List.mem_cons, List.not_mem_nil, or_false, Piece.slot.injEq, reduceCtorEq,
        false_or] at h
      rcases h with rfl | rfl | rfl | rfl | rfl
      all_goals exact ⟨by decide, by decide⟩

theorem Template.isPlain_of_mem_blockPieces {theme : Theme} (htheme : theme.IsPlain)
    {kind : Kind} {block : Block} (hblock : block ∈ Layout.blocks kind) {piece : Piece}
    (h : piece ∈ blockPieces theme block) : piece.IsPlain := by
  cases piece with
  | text content => exact not_mem_of_mem_blockPieces (.inl rfl) htheme hblock h
  | slot name =>
      unfold blockPieces at h
      simp only [List.mem_cons, List.not_mem_nil, or_false, Piece.slot.injEq, reduceCtorEq,
        false_or] at h
      rw [h]
      exact (Layout.isPlain_of_mem hblock).1

/-- The pieces of the built-in templates are found again. -/
theorem Template.isPlain_of_mem_builtinPieces {kind : Kind} {theme : Theme}
    (htheme : theme.IsPlain) {piece : Piece} (h : piece ∈ builtinPieces kind theme) :
    piece.IsPlain := by
  rw [builtinPieces, List.mem_append, List.mem_append, List.mem_flatMap, List.mem_singleton] at h
  rcases h with (h | ⟨block, hblock, h⟩) | rfl
  · exact isPlain_of_mem_opening htheme h
  · exact isPlain_of_mem_blockPieces htheme hblock h
  · show '\x7b' ∉ "</svg>\n".toList
    decide

end CanvasPress
