/-
# Filling a template is one simultaneous substitution

`Template.fill` walks over a template from left to right.  `IsSubstitution` describes its
result without an order: every position of the template contributes on its own.  The
position at which the placeholder of a known name begins contributes the value of the
name, the rest of that placeholder contributes nothing, and every other position
contributes the character that stands there.  Since placeholders never overlap, this
determines the result, and since values are only ever contributed, no value is looked at
again.
-/

import CanvasPress.Proofs.Template.Occurrence
import Mathlib.Data.List.Basic

namespace CanvasPress.Template

variable {value? : String → Option String}

/-- The placeholder of a name with this value stands at a position of a template. -/
def Known (value? : String → Option String) (template : List Char) (position : Nat)
    (source : List Char) (value : String) : Prop :=
  ∃ name, Occurs template position name source ∧ value? (String.ofList name) = some value

/-- What each position of a template contributes when the placeholders of all known names
are replaced at once. -/
structure Contributes (value? : String → Option String) (template : List Char)
    (contribution : Nat → List Char) : Prop where
  /-- A known placeholder contributes its value where it begins, -/
  begins : ∀ position source value, Known value? template position source value →
    contribution position = value.toList
  /-- and nothing else is left of it. -/
  inside : ∀ position source value, Known value? template position source value →
    ∀ i, position < i → i < position + source.length → contribution i = []
  /-- All else stays as it is. -/
  outside : ∀ i c, template[i]? = some c →
    (∀ position source value, Known value? template position source value →
      i < position ∨ position + source.length ≤ i) →
    contribution i = [c]

/-- The output is the template with the placeholders of all known names replaced at once
by their values. -/
def IsSubstitution (value? : String → Option String) (template output : List Char) : Prop :=
  ∃ contribution, Contributes value? template contribution ∧
    output = (List.range template.length).flatMap contribution

/-! ## There is only one result -/

theorem Contributes.eq_of_lt {template : List Char} {contribution contribution' : Nat → List Char}
    (h : Contributes value? template contribution)
    (h' : Contributes value? template contribution') {i : Nat} (hlt : i < template.length) :
    contribution i = contribution' i := by
  by_cases hinside : ∃ position source value, Known value? template position source value ∧
      position ≤ i ∧ i < position + source.length
  · obtain ⟨position, source, value, hknown, hle, hend⟩ := hinside
    rcases Nat.eq_or_lt_of_le hle with rfl | hbehind
    · rw [h.begins _ _ _ hknown, h'.begins _ _ _ hknown]
    · rw [h.inside _ _ _ hknown i hbehind hend, h'.inside _ _ _ hknown i hbehind hend]
  · have houtside : ∀ position source value, Known value? template position source value →
        i < position ∨ position + source.length ≤ i := by
      intro position source value hknown
      by_contra hbetween
      exact hinside ⟨position, source, value, hknown, by omega, by omega⟩
    have hchar := List.getElem?_eq_getElem hlt
    rw [h.outside i _ hchar houtside, h'.outside i _ hchar houtside]

theorem IsSubstitution.unique {template output output' : List Char}
    (h : IsSubstitution value? template output) (h' : IsSubstitution value? template output') :
    output = output' := by
  obtain ⟨contribution, hcontributes, rfl⟩ := h
  obtain ⟨contribution', hcontributes', rfl⟩ := h'
  refine List.flatMap_congr fun i hi => ?_
  exact hcontributes.eq_of_lt hcontributes' (List.mem_range.1 hi)

/-! ## Filling is a substitution -/

theorem known_append_iff {front rest source : List Char} {position : Nat} {value : String} :
    Known value? (front ++ rest) (front.length + position) source value ↔
      Known value? rest position source value := by
  simp only [Known, occurs_append_iff]

/-- What a front contributes by itself, followed by what the rest contributes. -/
def beside (length : Nat) (own other : Nat → List Char) (i : Nat) : List Char :=
  if i < length then own i else other (i - length)

theorem beside_of_lt {length i : Nat} (own other : Nat → List Char) (h : i < length) :
    beside length own other i = own i :=
  if_pos h

theorem beside_add (length : Nat) (own other : Nat → List Char) (i : Nat) :
    beside length own other (length + i) = other i := by
  rw [beside, if_neg (by omega), Nat.add_sub_cancel_left]

theorem flatMap_beside (length length' : Nat) (own other : Nat → List Char) :
    (List.range (length + length')).flatMap (beside length own other) =
      (List.range length).flatMap own ++ (List.range length').flatMap other := by
  rw [List.range_add, List.flatMap_append, List.flatMap_map]
  congr 1
  · exact List.flatMap_congr fun i hi => beside_of_lt own other (List.mem_range.1 hi)
  · exact List.flatMap_congr fun i _ => beside_add length own other i

/-- A front in which no known placeholder begins, unless it is one from end to end,
contributes by itself. -/
theorem Contributes.append {front rest : List Char} {own other : Nat → List Char}
    (hother : Contributes value? rest other)
    (hwhole : ∀ position source value, Known value? (front ++ rest) position source value →
      position < front.length → position = 0 ∧ source = front ∧ own 0 = value.toList ∧
        ∀ i, 0 < i → own i = [])
    (hplain : (∀ source value, ¬ Known value? (front ++ rest) 0 source value) →
      ∀ i c, front[i]? = some c → own i = [c]) :
    Contributes value? (front ++ rest) (beside front.length own other) := by
  constructor
  · intro position source value hknown
    by_cases hlt : position < front.length
    · obtain ⟨rfl, -, hvalue, -⟩ := hwhole _ _ _ hknown hlt
      rw [beside_of_lt own other hlt, hvalue]
    · obtain ⟨position, rfl⟩ := Nat.exists_eq_add_of_le (Nat.le_of_not_lt hlt)
      rw [beside_add, hother.begins _ _ _ (known_append_iff.1 hknown)]
  · intro position source value hknown i hbehind hend
    by_cases hlt : position < front.length
    · obtain ⟨rfl, rfl, -, hnothing⟩ := hwhole _ _ _ hknown hlt
      rw [beside_of_lt own other (by omega), hnothing i hbehind]
    · obtain ⟨position, rfl⟩ := Nat.exists_eq_add_of_le (Nat.le_of_not_lt hlt)
      obtain ⟨i, rfl⟩ := Nat.exists_eq_add_of_le (show front.length ≤ i by omega)
      rw [beside_add]
      exact hother.inside _ _ _ (known_append_iff.1 hknown) i (by omega) (by omega)
  · intro i c hchar houtside
    by_cases hlt : i < front.length
    · rw [beside_of_lt own other hlt]
      refine hplain ?_ i c (by rwa [List.getElem?_append_left hlt] at hchar)
      intro source value hknown
      obtain ⟨-, rfl, -, -⟩ := hwhole 0 _ _ hknown (by omega)
      rcases houtside _ _ _ hknown with hbefore | hbehind <;> omega
    · obtain ⟨i, rfl⟩ := Nat.exists_eq_add_of_le (Nat.le_of_not_lt hlt)
      rw [beside_add]
      refine hother.outside i c ?_ ?_
      · rwa [List.getElem?_append_right (by omega), Nat.add_sub_cancel_left] at hchar
      · intro position source value hknown
        have := houtside _ _ _ (known_append_iff.2 hknown)
        omega

theorem IsSubstitution.nil : IsSubstitution value? [] [] := by
  refine ⟨fun _ => [], ⟨?_, fun _ _ _ _ _ _ _ => rfl, ?_⟩, rfl⟩
  · rintro position source value ⟨name, ⟨hspells, hstands⟩, -⟩
    obtain ⟨interior, rfl, -, -⟩ := hspells.interior
    simp at hstands
  · intro i c hchar
    simp at hchar

/-- A character at which no placeholder begins stays. -/
theorem IsSubstitution.cons {c : Char} {rest output : List Char}
    (hnone : placeholder? (c :: rest) = none) (h : IsSubstitution value? rest output) :
    IsSubstitution value? (c :: rest) (c :: output) := by
  obtain ⟨other, hother, rfl⟩ := h
  have hunknown (source : List Char) (value : String) :
      ¬ Known value? ([c] ++ rest) 0 source value := by
    rintro ⟨name, hoccurs, -⟩
    obtain ⟨hspells, behind, hbehind⟩ := occurs_zero_iff.1 hoccurs
    have hread := placeholder?_of_spells hspells behind
    rw [← hbehind, List.singleton_append, hnone] at hread
    cases hread
  have hcontributes : Contributes value? ([c] ++ rest) (beside 1 (fun _ => [c]) other) := by
    refine hother.append ?_ ?_
    · intro position source value hknown hlt
      obtain rfl : position = 0 := by simpa using hlt
      exact absurd hknown (hunknown source value)
    · intro _ i d hchar
      cases i with
      | zero => simpa using hchar
      | succ i => simp at hchar
  refine ⟨beside 1 (fun _ => [c]) other, hcontributes, ?_⟩
  rw [List.length_cons, Nat.add_comm, flatMap_beside]
  rfl

/-- A known placeholder that begins in a placeholder is that one. -/
theorem Known.eq_of_lt {name source source' rest : List Char} {position : Nat} {value : String}
    (hspells : Spells name source)
    (h : Known value? (source ++ rest) position source' value)
    (hlt : position < source.length) :
    position = 0 ∧ source' = source ∧ value? (String.ofList name) = some value := by
  obtain ⟨name', hoccurs, hvalue⟩ := h
  obtain rfl := hoccurs.eq_zero_of_lt hspells hlt
  obtain ⟨hspells', behind, hbehind⟩ := occurs_zero_iff.1 hoccurs
  obtain ⟨rfl, rfl⟩ := hspells.eq_of_append_eq hspells' hbehind
  exact ⟨rfl, rfl, hvalue⟩

/-- The placeholder of a known name becomes its value. -/
theorem IsSubstitution.value {name source rest output : List Char} {value : String}
    (hspells : Spells name source) (hvalue : value? (String.ofList name) = some value)
    (h : IsSubstitution value? rest output) :
    IsSubstitution value? (source ++ rest) (value.toList ++ output) := by
  obtain ⟨other, hother, rfl⟩ := h
  have hknown : Known value? (source ++ rest) 0 source value :=
    ⟨name, occurs_zero_iff.2 ⟨hspells, rest, rfl⟩, hvalue⟩
  refine ⟨beside source.length (fun i => if i = 0 then value.toList else []) other,
    hother.append ?_ ?_, ?_⟩
  · intro position source' value' hknown' hlt
    obtain ⟨rfl, rfl, hvalue'⟩ := hknown'.eq_of_lt hspells hlt
    rw [hvalue] at hvalue'
    cases hvalue'
    exact ⟨rfl, rfl, rfl, fun i hi => if_neg (by omega)⟩
  · intro hnone
    exact absurd hknown (hnone source value)
  · obtain ⟨interior, rfl, -, -⟩ := hspells.interior
    rw [List.length_append, flatMap_beside, List.length_cons, List.range_succ_eq_map]
    simp [List.flatMap_map]

theorem flatMap_range_getElem? (s : List Char) :
    (List.range s.length).flatMap (fun i => s[i]?.toList) = s := by
  induction s with
  | nil => rfl
  | cons c s ih =>
      rw [List.length_cons, List.range_succ_eq_map, List.flatMap_cons, List.flatMap_map]
      simpa using ih

/-- The placeholder of an unknown name stays. -/
theorem IsSubstitution.unknown {name source rest output : List Char}
    (hspells : Spells name source) (hnone : value? (String.ofList name) = none)
    (h : IsSubstitution value? rest output) :
    IsSubstitution value? (source ++ rest) (source ++ output) := by
  obtain ⟨other, hother, rfl⟩ := h
  refine ⟨beside source.length (fun i => source[i]?.toList) other, hother.append ?_ ?_, ?_⟩
  · intro position source' value' hknown hlt
    obtain ⟨-, -, hvalue⟩ := hknown.eq_of_lt hspells hlt
    rw [hnone] at hvalue
    cases hvalue
  · intro _ i c hchar
    rw [hchar]
    rfl
  · rw [List.length_append, flatMap_beside, flatMap_range_getElem?]

/-! ## Filling, placeholder by placeholder -/

theorem fill_nil (value? : String → Option String) : fill value? [] = [] := by
  rw [fill, scan]
  rfl

theorem fill_cons_of_none (value? : String → Option String) {c : Char} {rest : List Char}
    (hnone : placeholder? (c :: rest) = none) :
    fill value? (c :: rest) = c :: fill value? rest := by
  rw [fill, scan]
  split
  · rename_i name behind found
    rw [hnone] at found
    cases found
  · rfl

/-- What a written placeholder becomes. -/
theorem fill_of_spells (value? : String → Option String) {name source : List Char}
    (hspells : Spells name source) (rest : List Char) :
    fill value? (source ++ rest) =
      (Token.placeholder name source).fill value? ++ fill value? rest := by
  have hread := placeholder?_of_spells hspells rest
  have htake : (source ++ rest).take ((source ++ rest).length - rest.length) = source := by
    rw [List.length_append, Nat.add_sub_cancel, List.take_left]
  obtain ⟨c, more, hcons⟩ : ∃ c more, source ++ rest = c :: more := by
    obtain ⟨interior, rfl, -, -⟩ := hspells.interior
    exact ⟨_, _, rfl⟩
  rw [hcons] at hread htake ⊢
  rw [fill, scan]
  split
  · rename_i name' rest' found
    rw [hread] at found
    cases found
    rw [htake]
    rfl
  · rename_i found
    rw [hread] at found
    cases found

/-- Filling a template replaces the placeholders of all known names at once. -/
theorem isSubstitution_fill (value? : String → Option String) (s : List Char) :
    IsSubstitution value? s (fill value? s) := by
  induction s using scan.induct with
  | case1 =>
      rw [fill_nil]
      exact .nil
  | case2 c more name rest found ih =>
      obtain ⟨source, hspells, heq⟩ := spells_of_placeholder? found
      rw [heq, fill_of_spells value? hspells]
      cases hvalue : value? (String.ofList name) with
      | some value =>
          rw [Token.fill, hvalue]
          exact .value hspells hvalue ih
      | none =>
          rw [Token.fill, hvalue]
          exact .unknown hspells hvalue ih
  | case3 c more found ih =>
      rw [fill_cons_of_none value? found]
      exact .cons found ih

/-- Filling is the only simultaneous substitution. -/
theorem isSubstitution_iff {template output : List Char} :
    IsSubstitution value? template output ↔ output = fill value? template := by
  constructor
  · intro h
    exact h.unique (isSubstitution_fill value? template)
  · rintro rfl
    exact isSubstitution_fill value? template

end CanvasPress.Template
