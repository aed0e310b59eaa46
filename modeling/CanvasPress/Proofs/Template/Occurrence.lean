/-
# Placeholders as they stand in a template

`Template.placeholder?` finds a placeholder by consuming characters.  Here is what it
finds, said without consuming anything: `Spells` describes how a placeholder of a name is
written, and `Occurs` where it stands in a template.  Braces may be strewn around
placeholders in any number; still a text begins with at most one placeholder, and two
placeholders of a template never share a character.
-/

import CanvasPress.Template.Placeholder
import Mathlib.Data.List.TakeWhile
import Mathlib.Tactic.Common

namespace CanvasPress.Template

open Text

/-! ## Runs of characters -/

theorem takeWhile_eq_of_stop {α : Type} {p : α → Bool} {run rest : List α}
    (hrun : ∀ a ∈ run, p a = true) (hstop : ∀ a ∈ rest.head?, p a = false) :
    (run ++ rest).takeWhile p = run := by
  rw [List.takeWhile_append_of_pos hrun]
  cases rest with
  | nil => simp
  | cons a rest => simp [hstop a rfl]

theorem dropWhile_eq_of_stop {α : Type} {p : α → Bool} {run rest : List α}
    (hrun : ∀ a ∈ run, p a = true) (hstop : ∀ a ∈ rest.head?, p a = false) :
    (run ++ rest).dropWhile p = rest := by
  rw [List.dropWhile_append_of_pos hrun]
  cases rest with
  | nil => rfl
  | cons a rest => simp [hstop a rfl]

/-- No character of a name is a blank. -/
theorem isBlank_eq_false_of_isNameChar {c : Char} (h : isNameChar c = true) :
    isBlank c = false := by
  rw [isNameChar, isAsciiAlphanumeric] at h
  delta Char.isAlpha Char.isUpper Char.isLower Char.isDigit at h
  simp only [Bool.or_eq_true, Bool.and_eq_true, decide_eq_true_eq, ge_iff_le,
    UInt32.le_iff_toNat_le] at h
  have hrange : 45 ≤ c.toNat ∧ c.toNat ≤ 122 := by
    have hnat : c.val.toNat = c.toNat := rfl
    have hupper : 'A'.val.toNat = 65 ∧ 'Z'.val.toNat = 90 := by decide
    have hlower : 'a'.val.toNat = 97 ∧ 'z'.val.toNat = 122 := by decide
    have hdigit : '0'.val.toNat = 48 ∧ '9'.val.toNat = 57 := by decide
    rcases h with (((hletter | hletter) | rfl) | rfl) | rfl
    · omega
    · omega
    all_goals decide
  simp only [isBlank, Bool.or_eq_false_iff, Bool.and_eq_false_iff, decide_eq_false_iff_not]
  omega

/-! ## How placeholders are written -/

/-- The written forms of the placeholder of a name: the name between double braces, with
blanks allowed around it.  Nothing but the characters of names can be a name. -/
def Spells (name source : List Char) : Prop :=
  name ≠ [] ∧ (∀ c ∈ name, isNameChar c = true) ∧
    ∃ before behind, (∀ c ∈ before, isBlank c = true) ∧ (∀ c ∈ behind, isBlank c = true) ∧
      source = '\x7b' :: '\x7b' :: (before ++ name ++ behind ++ ['\x7d', '\x7d'])

/-- Behind its two opening braces a placeholder has no further one, and something else. -/
theorem Spells.interior {name source : List Char} (h : Spells name source) :
    ∃ interior, source = '\x7b' :: '\x7b' :: interior ∧ interior ≠ [] ∧ '\x7b' ∉ interior := by
  obtain ⟨-, hname, before, behind, hbefore, hbehind, rfl⟩ := h
  refine ⟨_, rfl, by simp, ?_⟩
  intro hbrace
  simp only [List.mem_append, List.mem_cons, List.not_mem_nil, or_false] at hbrace
  rcases hbrace with ((hbrace | hbrace) | hbrace) | hbrace
  · exact absurd (hbefore _ hbrace) (by decide)
  · exact absurd (hname _ hbrace) (by decide)
  · exact absurd (hbehind _ hbrace) (by decide)
  · exact absurd hbrace (by decide)

/-- What the front of a text is read as: the name stands between blanks, and the blanks
and the name end only where something else follows. -/
theorem placeholder?_of_spells {name source : List Char} (h : Spells name source)
    (rest : List Char) : placeholder? (source ++ rest) = some (name, rest) := by
  obtain ⟨hne, hname, before, behind, hbefore, hbehind, rfl⟩ := h
  have hclosed : ∀ c ∈ (behind ++ '\x7d' :: '\x7d' :: rest).head?, isNameChar c = false := by
    intro c hc
    cases behind with
    | nil =>
        cases hc
        rfl
    | cons b behind =>
        cases hc
        by_contra hnamed
        have hblank := isBlank_eq_false_of_isNameChar (by simpa using hnamed)
        rw [hbehind _ List.mem_cons_self] at hblank
        cases hblank
  have hopened : ∀ c ∈ (name ++ (behind ++ '\x7d' :: '\x7d' :: rest)).head?,
      isBlank c = false := by
    intro c hc
    cases name with
    | nil => exact absurd rfl hne
    | cons d name =>
        cases hc
        exact isBlank_eq_false_of_isNameChar (hname _ List.mem_cons_self)
  have hpadded : (before ++ (name ++ (behind ++ '\x7d' :: '\x7d' :: rest))).dropWhile isBlank =
      name ++ (behind ++ '\x7d' :: '\x7d' :: rest) :=
    dropWhile_eq_of_stop hbefore hopened
  have hbraces : (behind ++ '\x7d' :: '\x7d' :: rest).dropWhile isBlank =
      '\x7d' :: '\x7d' :: rest := by
    refine dropWhile_eq_of_stop hbehind ?_
    intro c hc
    cases hc
    rfl
  simp only [List.cons_append, List.append_assoc, List.nil_append, placeholder?, hpadded,
    takeWhile_eq_of_stop hname hclosed, dropWhile_eq_of_stop hname hclosed, hbraces]
  rw [if_neg (by simpa using hne)]

/-- A text is read as a placeholder only if it begins with one. -/
theorem spells_of_placeholder? {s name rest : List Char}
    (found : placeholder? s = some (name, rest)) :
    ∃ source, Spells name source ∧ s = source ++ rest := by
  unfold placeholder? at found
  split at found
  · rename_i inside
    simp only at found
    split at found
    · rename_i tail hbraces
      split at found
      · cases found
      · rename_i hne
        cases found
        refine ⟨_, ⟨by simpa using hne, fun c hc => List.mem_takeWhile_imp hc,
          inside.takeWhile isBlank,
          ((inside.dropWhile isBlank).dropWhile isNameChar).takeWhile isBlank,
          fun c hc => List.mem_takeWhile_imp hc, fun c hc => List.mem_takeWhile_imp hc, rfl⟩, ?_⟩
        have hinside : inside = inside.takeWhile isBlank ++
            ((inside.dropWhile isBlank).takeWhile isNameChar ++
              (((inside.dropWhile isBlank).dropWhile isNameChar).takeWhile isBlank ++
                '\x7d' :: '\x7d' :: rest)) := by
          rw [← hbraces, List.takeWhile_append_dropWhile, List.takeWhile_append_dropWhile,
            List.takeWhile_append_dropWhile]
        simpa using hinside
    · cases found
  · cases found

theorem placeholder?_eq_some_iff {s name rest : List Char} :
    placeholder? s = some (name, rest) ↔ ∃ source, Spells name source ∧ s = source ++ rest := by
  constructor
  · exact spells_of_placeholder?
  · rintro ⟨source, hspells, rfl⟩
    exact placeholder?_of_spells hspells rest

/-- A text begins with at most one placeholder. -/
theorem Spells.eq_of_append_eq {name name' source source' rest rest' : List Char}
    (h : Spells name source) (h' : Spells name' source')
    (heq : source ++ rest = source' ++ rest') : name = name' ∧ source = source' := by
  have hread := placeholder?_of_spells h rest
  rw [heq, placeholder?_of_spells h' rest'] at hread
  cases hread
  exact ⟨rfl, List.append_cancel_right heq⟩

/-! ## Where placeholders stand -/

/-- The placeholder of a name stands, written in this way, at a position of a template. -/
def Occurs (template : List Char) (position : Nat) (name source : List Char) : Prop :=
  Spells name source ∧ source <+: template.drop position

theorem occurs_zero_iff {template name source : List Char} :
    Occurs template 0 name source ↔ Spells name source ∧ ∃ rest, template = source ++ rest := by
  simp only [Occurs, List.drop_zero]
  refine and_congr_right fun _ => ⟨?_, ?_⟩
  · rintro ⟨rest, rfl⟩
    exact ⟨rest, rfl⟩
  · rintro ⟨rest, rfl⟩
    exact ⟨rest, rfl⟩

/-- What stands behind the front of a template does not depend on the front. -/
theorem occurs_append_iff {front rest name source : List Char} {position : Nat} :
    Occurs (front ++ rest) (front.length + position) name source ↔
      Occurs rest position name source := by
  rw [Occurs, Occurs, List.drop_length_add_append]

/-- A placeholder that begins inside another one begins where that one does. -/
theorem Occurs.eq_zero_of_lt {name name' source source' rest : List Char} {position : Nat}
    (h : Spells name source) (h' : Occurs (source ++ rest) position name' source')
    (hlt : position < source.length) : position = 0 := by
  obtain ⟨hspells', behind, hbehind⟩ := h'
  obtain ⟨interior, rfl, hne, hbrace⟩ := h.interior
  obtain ⟨interior', rfl, -, -⟩ := hspells'.interior
  -- An opening brace would stand at the position and another one right behind it.
  match position with
  | 0 => rfl
  | 1 =>
      obtain ⟨c, more, rfl⟩ := List.exists_cons_of_ne_nil hne
      simp only [List.cons_append, List.drop_succ_cons, List.drop_zero, List.cons.injEq] at hbehind
      rw [hbehind.2.1] at hbrace
      exact absurd List.mem_cons_self hbrace
  | position + 2 =>
      simp only [List.cons_append, List.drop_succ_cons, List.length_cons] at hbehind hlt
      rw [List.drop_append_of_le_length (by omega)] at hbehind
      obtain ⟨c, more, hmore⟩ := List.exists_cons_of_ne_nil
        (List.ne_nil_of_length_pos (l := interior.drop position) (by simp; omega))
      rw [hmore] at hbehind
      simp only [List.cons_append, List.cons.injEq] at hbehind
      refine absurd (List.mem_of_mem_drop (i := position) ?_) hbrace
      rw [hmore, hbehind.1]
      exact List.mem_cons_self

/-- Two placeholders of a template are the same one, or one ends before the other
begins. -/
theorem Occurs.eq_or_apart {template name name' source source' : List Char}
    {position position' : Nat} (h : Occurs template position name source)
    (h' : Occurs template position' name' source') :
    (position = position' ∧ name = name' ∧ source = source') ∨
      position + source.length ≤ position' ∨ position' + source'.length ≤ position := by
  wlog hle : position ≤ position' generalizing position position' name name' source source'
  · rcases this h' h (by omega) with ⟨hposition, hname, hsource⟩ | hapart
    · exact .inl ⟨hposition.symm, hname.symm, hsource.symm⟩
    · exact .inr hapart.symm
  obtain ⟨offset, rfl⟩ := Nat.exists_eq_add_of_le hle
  obtain ⟨hspells, rest, hrest⟩ := h
  have hbegin : Occurs (source ++ rest) offset name' source' := by
    rw [hrest, Occurs, List.drop_drop]
    exact h'
  by_cases hlt : offset < source.length
  · obtain rfl := hbegin.eq_zero_of_lt hspells hlt
    obtain ⟨hspells', rest', hrest'⟩ := occurs_zero_iff.1 hbegin
    exact .inl ⟨rfl, hspells.eq_of_append_eq hspells' hrest'⟩
  · exact .inr (.inl (by omega))

end CanvasPress.Template
