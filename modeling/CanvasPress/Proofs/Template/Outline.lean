/-
# Pieces on lines of their own

A filled template shows some texts and some slots that are left, with markup in between.
Written on lines of their own, the same texts and slots make a text of which the search for
braces finds as much (`Shows`): the markup holds no braces, and something of it stands
between any two of them.  On such lines it is plain what is found.  Slots always are; and
texts without two opening braces next to each other, or without two closing ones, add
nothing.
-/

import CanvasPress.Proofs.Template.Braces
import CanvasPress.Proofs.Template.Builtin

namespace CanvasPress.Template

open Text

/-! ## Lines -/

/-- The slots among pieces, as they are written. -/
def slotTexts : List Piece → List (List Char)
  | [] => []
  | .text _ :: pieces => slotTexts pieces
  | .slot name :: pieces => (Piece.slotText name).toList :: slotTexts pieces

/-- Pieces on lines of their own. -/
def lines (pieces : List Piece) : List Char :=
  pieces.flatMap fun piece => piece.write.toList ++ ['\n']

theorem lines_cons (piece : Piece) (pieces : List Piece) :
    lines (piece :: pieces) = piece.write.toList ++ '\n' :: lines pieces := by
  rw [lines, List.flatMap_cons, List.append_assoc]
  rfl

theorem lines_append (pieces pieces' : List Piece) :
    lines (pieces ++ pieces') = lines pieces ++ lines pieces' :=
  List.flatMap_append

theorem slotTexts_append (pieces pieces' : List Piece) :
    slotTexts (pieces ++ pieces') = slotTexts pieces ++ slotTexts pieces' := by
  induction pieces with
  | nil => rfl
  | cons piece pieces ih =>
      cases piece with
      | text content => exact ih
      | slot name => exact congrArg _ ih

/-- A slot stands between double braces. -/
theorem isBraced_slotText {name : String} (h : (Piece.slot name).IsPlain) :
    IsBraced (Piece.slotText name).toList :=
  (Piece.spells_slotText h).isBraced

/-- Slots are found in the order in which they are written, whatever else is written, and
whatever gap is left behind each piece. -/
theorem slotTexts_sublist_leftovers {pieces : List Piece}
    (h : ∀ name, .slot name ∈ pieces → (Piece.slot name).IsPlain) (front gap : List Char) :
    (slotTexts pieces).Sublist
      (leftovers (front ++ pieces.flatMap fun piece => piece.write.toList ++ gap)) := by
  induction pieces generalizing front with
  | nil => exact List.nil_sublist _
  | cons piece pieces ih =>
      have hpieces := fun name hmem => h name (List.mem_cons_of_mem _ hmem)
      rw [List.flatMap_cons, List.append_assoc]
      cases piece with
      | text content =>
          rw [← List.append_assoc, ← List.append_assoc]
          exact ih hpieces (front ++ content.toList ++ gap)
      | slot name =>
          have hslot := isBraced_slotText (h name List.mem_cons_self)
          rw [Piece.write, leftovers_append_of_isBraced hslot]
          exact ((ih hpieces gap).cons_cons _).trans (List.sublist_append_right _ _)

/-! ## Texts without double braces -/

/-- Another character keeps braces on its two sides apart. -/
theorem pair_infix_append_cons {brace c : Char} (hc : c ≠ brace) {front rest : List Char}
    (h : [brace, brace] <:+: front ++ c :: rest) :
    [brace, brace] <:+: front ∨ [brace, brace] <:+: rest := by
  induction front with
  | nil =>
      rcases List.infix_cons_iff.1 h with hprefix | hinfix
      · exact absurd (List.cons_prefix_cons.1 hprefix).1.symm hc
      · exact .inr hinfix
  | cons d front ih =>
      rcases List.infix_cons_iff.1 h with hprefix | hinfix
      · obtain ⟨rfl, hsecond⟩ := List.cons_prefix_cons.1 hprefix
        cases front with
        | nil => exact absurd (List.cons_prefix_cons.1 hsecond).1.symm hc
        | cons e front =>
            obtain ⟨rfl, -⟩ := List.cons_prefix_cons.1 hsecond
            exact .inl (List.infix_cons_iff.2 (.inl (by simp)))
      · rcases ih hinfix with hfront | hrest
        · exact .inl (List.infix_cons_iff.2 (.inr hfront))
        · exact .inr hrest

/-- Nothing is found where no two opening braces stand next to each other, and nothing where
no two closing braces do. -/
theorem leftovers_eq_nil_of_no_pair {brace : Char} (hbrace : brace = '\x7b' ∨ brace = '\x7d')
    {s : List Char} (h : ¬ [brace, brace] <:+: s) : leftovers s = [] := by
  rw [List.eq_nil_iff_forall_not_mem]
  intro source hmem
  obtain ⟨⟨inside, -, -, rfl⟩, hinfix⟩ := isBraced_infix_of_mem_leftovers hmem
  refine h (List.IsInfix.trans ?_ hinfix)
  rcases hbrace with rfl | rfl
  · exact ⟨[], inside ++ ['\x7d', '\x7d'], by simp⟩
  · exact ⟨'\x7b' :: '\x7b' :: inside, [], by simp⟩

/-- Where no text has two such braces next to each other, nothing but the slots is found on
the lines. -/
theorem leftovers_lines_of_no_pair {brace : Char} (hbrace : brace = '\x7b' ∨ brace = '\x7d')
    {pieces : List Piece} (hslots : ∀ name, .slot name ∈ pieces → (Piece.slot name).IsPlain)
    (htexts : ∀ content, .text content ∈ pieces → ¬ [brace, brace] <:+: content.toList)
    (front : List Char) (hfront : ¬ [brace, brace] <:+: front) :
    leftovers (front ++ '\n' :: lines pieces) = slotTexts pieces := by
  have hbreak : '\n' ≠ brace := by
    rcases hbrace with rfl | rfl <;> decide
  have hnil : ¬ [brace, brace] <:+: [] := by simp
  induction pieces generalizing front with
  | nil =>
      refine leftovers_eq_nil_of_no_pair hbrace fun hpair => ?_
      exact (pair_infix_append_cons hbreak hpair).elim hfront hnil
  | cons piece pieces ih =>
      have hslots' := fun name hmem => hslots name (List.mem_cons_of_mem _ hmem)
      have htexts' := fun content hmem => htexts content (List.mem_cons_of_mem _ hmem)
      rw [lines_cons]
      cases piece with
      | text content =>
          have hcontent := htexts content List.mem_cons_self
          have hjoined : ¬ [brace, brace] <:+: front ++ '\n' :: content.toList := fun hpair =>
            (pair_infix_append_cons hbreak hpair).elim hfront hcontent
          have hnext := ih hslots' htexts' _ hjoined
          rw [List.append_assoc, List.cons_append] at hnext
          exact hnext
      | slot name =>
          have hbraced := isBraced_slotText (hslots name List.mem_cons_self)
          have hstart : leftovers (front ++ ['\n']) = [] :=
            leftovers_eq_nil_of_no_pair hbrace fun hpair =>
              (pair_infix_append_cons hbreak hpair).elim hfront hnil
          have hsplit : front ++ '\n' :: ((Piece.slotText name).toList ++ '\n' :: lines pieces) =
              (front ++ ['\n']) ++ ((Piece.slotText name).toList ++ '\n' :: lines pieces) := by
            rw [List.append_assoc, List.singleton_append]
          show leftovers (front ++ '\n' :: ((Piece.slotText name).toList ++ '\n' :: lines pieces)) =
            (Piece.slotText name).toList :: slotTexts pieces
          rw [hsplit, leftovers_append_of_isBraced hbraced, hstart, List.nil_append]
          exact congrArg _ (ih hslots' htexts' [] hnil)

/-! ## Markup and lines -/

/-- Behind any markup, as much is found with a text as with lines behind a line break. -/
def Lined (s s' : List Char) : Prop :=
  ∀ run, IsSmooth run → run ≠ [] → Alike (run ++ s) ('\n' :: s')

/-- Markup shows pieces if, with more markup behind it, it may be replaced by the pieces on
lines of their own. -/
def Shows (markup : List Char) (pieces : List Piece) : Prop :=
  ∀ run rest rest', IsSmooth run → run ≠ [] → Lined rest rest' →
    Lined (markup ++ (run ++ rest)) (lines pieces ++ rest')

theorem isSmooth_break : IsSmooth ['\n'] := by
  decide

theorem Lined.nil : Lined [] [] := by
  intro run hrun hne
  exact (Alike.refl []).runs hrun isSmooth_break hne (List.cons_ne_nil _ _)

theorem Lined.append_left {s s' front : List Char} (h : Lined s s') (hfront : IsSmooth front) :
    Lined (front ++ s) s' := by
  intro run hrun hne
  rw [← List.append_assoc]
  exact h (run ++ front) (isSmooth_append_iff.2 ⟨hrun, hfront⟩) (by simp [hne])

/-- Markup without braces shows nothing. -/
theorem Shows.of_isSmooth {markup : List Char} (h : IsSmooth markup) : Shows markup [] := by
  intro run rest rest' hrun _ hrest
  exact (hrest.append_left hrun).append_left h

theorem Shows.append_left {markup front : List Char} {pieces : List Piece}
    (h : Shows markup pieces) (hfront : IsSmooth front) : Shows (front ++ markup) pieces := by
  intro run rest rest' hrun hne hrest
  rw [List.append_assoc]
  exact (h run rest rest' hrun hne hrest).append_left hfront

theorem Shows.append_right {markup behind : List Char} {pieces : List Piece}
    (h : Shows markup pieces) (hbehind : IsSmooth behind) : Shows (markup ++ behind) pieces := by
  intro run rest rest' hrun hne hrest
  rw [List.append_assoc, ← List.append_assoc behind]
  exact h (behind ++ run) rest rest' (isSmooth_append_iff.2 ⟨hbehind, hrun⟩) (by simp [hne]) hrest

/-- What is shown one after the other, with markup in between. -/
theorem Shows.append {markup markup' between : List Char} {pieces pieces' : List Piece}
    (h : Shows markup pieces) (hbetween : IsSmooth between) (hne : between ≠ [])
    (h' : Shows markup' pieces') :
    Shows (markup ++ (between ++ markup')) (pieces ++ pieces') := by
  intro run rest rest' hrun hrunne hrest
  rw [lines_append, List.append_assoc, List.append_assoc, List.append_assoc]
  exact h between _ _ hbetween hne (h' run rest rest' hrun hrunne hrest)

/-- What the search cannot tell from a piece shows the piece. -/
theorem Shows.of_alike {markup : List Char} {piece : Piece}
    (h : ∀ s s', Alike s s' → Alike (markup ++ s) (piece.write.toList ++ s')) :
    Shows markup [piece] := by
  intro run rest rest' hrun hne hrest front hfront hfrontne
  have hbehind := h _ _ (hrest run hrun hne)
  rw [lines_cons, List.append_assoc]
  exact hbehind.runs hfront isSmooth_break hfrontne (List.cons_ne_nil _ _)

/-- Escaped text shows the text. -/
theorem Shows.escape (text : String) : Shows (Text.escape text).toList [.text text] := by
  refine .of_alike fun s s' h => ?_
  rw [toList_escape]
  exact h.escape text.toList

/-- A slot that is left shows itself. -/
theorem Shows.slot (name : String) : Shows (Piece.slotText name).toList [.slot name] :=
  .of_alike fun _ _ h => h.append_left _

/-- What is found in a whole text that shows pieces. -/
theorem Shows.length_leftovers {front markup behind : List Char} {pieces : List Piece}
    (h : Shows markup pieces) (hfront : IsSmooth front) (hne : front ≠ [])
    (hbehind : IsSmooth behind) (hbehindne : behind ≠ []) :
    (leftovers (front ++ (markup ++ behind))).length =
      (leftovers ('\n' :: lines pieces)).length := by
  have hlined := h behind [] [] hbehind hbehindne .nil
  rw [List.append_nil, List.append_nil] at hlined
  exact hlined front hfront hne []

end CanvasPress.Template
