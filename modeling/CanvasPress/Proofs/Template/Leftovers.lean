/-
# What is left between double braces

A finished text is searched for anything between double braces, which is far more than the
placeholders of templates, and the search does not know where the text came from.  Still it
never overlooks what stands there: text between double braces that has no braces inside is
found whatever stands in front of it, because a find that begins earlier would have to go
on over the two opening braces, and no find has opening braces behind its own
(`leftovers_append_of_isBraced`).

From this follows that every placeholder which filling leaves in place is found again.
`ListsUnfilled` says which these are by their positions in the template, and
`unfilled_sublist_leftovers` that they are found in this order, among whatever else the
values bring in.
-/

import CanvasPress.Proofs.Template.Substitution
import Mathlib.Data.List.Forall2

namespace CanvasPress.Template

variable {value? : String → Option String}

/-! ## Text between double braces -/

/-- Text between double braces, without braces inside. -/
def IsBraced (source : List Char) : Prop :=
  ∃ inside, '\x7b' ∉ inside ∧ '\x7d' ∉ inside ∧
    source = '\x7b' :: '\x7b' :: (inside ++ ['\x7d', '\x7d'])

/-- A placeholder is text between double braces. -/
theorem Spells.isBraced {name source : List Char} (h : Spells name source) : IsBraced source := by
  obtain ⟨-, hname, before, behind, hbefore, hbehind, rfl⟩ := h
  have hplain (brace : Char) (hnamed : isNameChar brace = false)
      (hblank : Text.isBlank brace = false) : brace ∉ before ++ name ++ behind := by
    simp only [List.mem_append, not_or]
    refine ⟨⟨fun h => ?_, fun h => ?_⟩, fun h => ?_⟩
    · rw [hbefore brace h] at hblank
      cases hblank
    · rw [hname brace h] at hnamed
      cases hnamed
    · rw [hbehind brace h] at hblank
      cases hblank
  exact ⟨before ++ name ++ behind, hplain _ (by decide) (by decide),
    hplain _ (by decide) (by decide), rfl⟩

/-- An opening brace behind the front of such a text is its second one: something follows it,
and no further one. -/
theorem IsBraced.of_append_cons {front more : List Char}
    (h : IsBraced (front ++ '\x7b' :: more)) (hfront : front ≠ []) :
    more ≠ [] ∧ '\x7b' ∉ more := by
  obtain ⟨inside, hopen, -, heq⟩ := h
  have hinside : '\x7b' ∉ inside ++ ['\x7d', '\x7d'] := by
    simpa using hopen
  match front with
  | [] => exact absurd rfl hfront
  | [c] =>
      simp only [List.cons_append, List.nil_append, List.cons.injEq] at heq
      rw [heq.2.2]
      exact ⟨by simp, hinside⟩
  | c :: d :: front =>
      simp only [List.cons_append, List.cons.injEq] at heq
      rw [← heq.2.2] at hinside
      exact absurd (List.mem_append_right _ List.mem_cons_self) hinside

/-- Text between double braces is found at the front of a text, whatever follows it. -/
theorem leftover?_of_isBraced {source : List Char} (h : IsBraced source) (rest : List Char) :
    leftover? (source ++ rest) = some (source, rest) := by
  obtain ⟨inside, hopen, hclose, rfl⟩ := h
  have hrun : ∀ c ∈ inside, (c != '\x7b' && c != '\x7d') = true := by
    intro c hc
    rw [Bool.and_eq_true, bne_iff_ne, bne_iff_ne]
    exact ⟨fun heq => hopen (heq ▸ hc), fun heq => hclose (heq ▸ hc)⟩
  have hstop : ∀ c ∈ ('\x7d' :: '\x7d' :: rest).head?, (c != '\x7b' && c != '\x7d') = false := by
    intro c hc
    cases hc
    rfl
  simp only [List.cons_append, List.append_assoc, List.nil_append, leftover?,
    dropWhile_eq_of_stop hrun hstop, takeWhile_eq_of_stop hrun hstop]

theorem leftover?_eq_some_iff {s source rest : List Char} :
    leftover? s = some (source, rest) ↔ IsBraced source ∧ s = source ++ rest := by
  constructor
  · intro found
    unfold leftover? at found
    split at found
    · rename_i inside
      simp only at found
      split at found
      · rename_i tail hclosing
        cases found
        have hother : ∀ c ∈ inside.takeWhile fun c => c != '\x7b' && c != '\x7d',
            c ≠ '\x7b' ∧ c ≠ '\x7d' := by
          intro c hc
          simpa using List.mem_takeWhile_imp hc
        refine ⟨⟨_, fun hc => (hother _ hc).1 rfl, fun hc => (hother _ hc).2 rfl, rfl⟩, ?_⟩
        have hinside : inside = (inside.takeWhile fun c => c != '\x7b' && c != '\x7d') ++
            '\x7d' :: '\x7d' :: rest := by
          rw [← hclosing, List.takeWhile_append_dropWhile]
        simpa using hinside
      · cases found
    · cases found
  · rintro ⟨hbraced, rfl⟩
    exact leftover?_of_isBraced hbraced rest

/-! ## Searching a text -/

theorem leftovers_nil : leftovers [] = [] := by
  rw [leftovers]

theorem leftovers_cons_of_none {c : Char} {rest : List Char}
    (hnone : leftover? (c :: rest) = none) : leftovers (c :: rest) = leftovers rest := by
  rw [leftovers]
  split
  · rename_i found
    rw [hnone] at found
    cases found
  · rfl

/-- What stands between double braces at the front of a text is found, and the search goes
on behind it. -/
theorem leftovers_of_isBraced {source : List Char} (h : IsBraced source) (rest : List Char) :
    leftovers (source ++ rest) = source :: leftovers rest := by
  have hfound := leftover?_of_isBraced h rest
  obtain ⟨c, more, hcons⟩ : ∃ c more, source ++ rest = c :: more := by
    obtain ⟨inside, -, -, rfl⟩ := h
    exact ⟨_, _, rfl⟩
  rw [hcons] at hfound ⊢
  rw [leftovers]
  split
  · rename_i found
    rw [hfound] at found
    cases found
    rfl
  · rename_i found
    rw [hfound] at found
    cases found

/-- No find begins in front of text between double braces and reaches into it. -/
theorem leftover?_append_of_none {source : List Char} (h : IsBraced source) {c : Char}
    {front : List Char} (hnone : leftover? (c :: front) = none) (rest : List Char) :
    leftover? (c :: (front ++ (source ++ rest))) = none := by
  rw [Option.eq_none_iff_forall_ne_some]
  rintro ⟨source', rest'⟩ hfound
  obtain ⟨hbraced, hsplit⟩ := leftover?_eq_some_iff.1 hfound
  rw [← List.cons_append, List.append_eq_append_iff] at hsplit
  rcases hsplit with ⟨more, rfl, htail⟩ | ⟨more, hfront, -⟩
  · -- Then the find goes on over at least one of the opening braces.
    obtain ⟨inside, hopen, -, rfl⟩ := h
    match more with
    | [] =>
        rw [List.append_nil] at hbraced
        rw [leftover?_eq_some_iff.2 ⟨hbraced, (List.append_nil _).symm⟩] at hnone
        cases hnone
    | [d] =>
        simp only [List.cons_append, List.cons.injEq] at htail
        obtain ⟨rfl, -⟩ := htail
        exact (hbraced.of_append_cons (List.cons_ne_nil _ _)).1 rfl
    | d :: e :: more =>
        simp only [List.cons_append, List.cons.injEq] at htail
        obtain ⟨rfl, rfl, -⟩ := htail
        exact (hbraced.of_append_cons (List.cons_ne_nil _ _)).2 List.mem_cons_self
  · rw [leftover?_eq_some_iff.2 ⟨hbraced, hfront⟩] at hnone
    cases hnone

/-- **Text between double braces is never overlooked.**  It divides the search into that in
front of it and that behind it. -/
theorem leftovers_append_of_isBraced {source : List Char} (h : IsBraced source)
    (front rest : List Char) :
    leftovers (front ++ (source ++ rest)) = leftovers front ++ source :: leftovers rest := by
  induction front using leftovers.induct with
  | case1 => rw [List.nil_append, leftovers_nil, List.nil_append, leftovers_of_isBraced h]
  | case2 c more source' rest' found ih =>
      obtain ⟨hbraced, hcons⟩ := leftover?_eq_some_iff.1 found
      rw [hcons, List.append_assoc, leftovers_of_isBraced hbraced, leftovers_of_isBraced hbraced,
        ih, List.cons_append]
  | case3 c more found ih =>
      rw [List.cons_append, leftovers_cons_of_none (leftover?_append_of_none h found rest), ih,
        leftovers_cons_of_none found]

/-! ## What filling leaves in place -/

/-- A placeholder stands at a position of a template and its name has no value. -/
def Unfilled (value? : String → Option String) (template : List Char) (position : Nat)
    (source : List Char) : Prop :=
  ∃ name, Occurs template position name source ∧ value? (String.ofList name) = none

/-- These are the placeholders of a template whose names have no value, in the order of their
positions, and as often as they stand there. -/
def ListsUnfilled (value? : String → Option String) (template : List Char)
    (sources : List (List Char)) : Prop :=
  ∃ positions : List Nat, positions.Pairwise (· < ·) ∧
    (∀ position, position ∈ positions ↔ ∃ source, Unfilled value? template position source) ∧
    List.Forall₂ (Unfilled value? template) positions sources

/-- At a position there is at most one placeholder. -/
theorem Unfilled.eq {template source source' : List Char} {position : Nat}
    (h : Unfilled value? template position source)
    (h' : Unfilled value? template position source') : source = source' := by
  obtain ⟨name, ⟨hspells, rest, hrest⟩, -⟩ := h
  obtain ⟨name', ⟨hspells', rest', hrest'⟩, -⟩ := h'
  exact (hspells.eq_of_append_eq hspells' (hrest.trans hrest'.symm)).2

/-- There is one such list only. -/
theorem ListsUnfilled.unique {template : List Char} {sources sources' : List (List Char)}
    (h : ListsUnfilled value? template sources) (h' : ListsUnfilled value? template sources') :
    sources = sources' := by
  obtain ⟨positions, hsorted, hall, heach⟩ := h
  obtain ⟨positions', hsorted', hall', heach'⟩ := h'
  have hnodup : positions.Nodup := hsorted.imp Nat.ne_of_lt
  have hnodup' : positions'.Nodup := hsorted'.imp Nat.ne_of_lt
  have hperm : positions.Perm positions' :=
    (List.perm_ext_iff_of_nodup hnodup hnodup').2 fun position =>
      (hall position).trans (hall' position).symm
  obtain rfl := hperm.eq_of_pairwise (fun _ _ _ _ hlt hgt => absurd hlt (Nat.lt_asymm hgt))
    hsorted hsorted'
  clear hsorted hsorted' hall hall' hnodup hnodup' hperm
  induction heach generalizing sources' with
  | nil =>
      cases heach'
      rfl
  | cons hfirst _ ih =>
      cases heach' with
      | cons hfirst' heach' => rw [hfirst.eq hfirst', ih heach']

/-- A placeholder without a value is in the list. -/
theorem ListsUnfilled.mem {template source : List Char} {sources : List (List Char)}
    {position : Nat} (h : ListsUnfilled value? template sources)
    (hunfilled : Unfilled value? template position source) : source ∈ sources := by
  obtain ⟨positions, -, hall, heach⟩ := h
  have hposition := (hall position).2 ⟨source, hunfilled⟩
  clear hall
  induction heach with
  | nil => cases hposition
  | cons hfirst _ ih =>
      rcases List.mem_cons.1 hposition with rfl | hposition
      · rw [hunfilled.eq hfirst]
        exact List.mem_cons_self
      · exact List.mem_cons_of_mem _ (ih hposition)

theorem unfilled_append_iff {front rest source : List Char} {position : Nat} :
    Unfilled value? (front ++ rest) (front.length + position) source ↔
      Unfilled value? rest position source := by
  simp only [Unfilled, occurs_append_iff]

theorem ListsUnfilled.nil : ListsUnfilled value? [] [] := by
  refine ⟨[], List.Pairwise.nil, fun position => ?_, List.Forall₂.nil⟩
  constructor
  · intro hmem
    cases hmem
  · rintro ⟨source, name, ⟨hspells, hstands⟩, -⟩
    obtain ⟨interior, rfl, -, -⟩ := hspells.interior
    simp at hstands

/-- A front in which no such placeholder begins changes nothing. -/
theorem ListsUnfilled.append {front rest : List Char} {sources : List (List Char)}
    (h : ListsUnfilled value? rest sources)
    (hnone : ∀ position source, position < front.length →
      ¬ Unfilled value? (front ++ rest) position source) :
    ListsUnfilled value? (front ++ rest) sources := by
  obtain ⟨positions, hsorted, hall, heach⟩ := h
  refine ⟨positions.map (front.length + ·), ?_, fun position => ?_, ?_⟩
  · exact hsorted.map _ fun _ _ hlt => Nat.add_lt_add_left hlt _
  · rw [List.mem_map]
    constructor
    · rintro ⟨offset, hoffset, rfl⟩
      obtain ⟨source, hunfilled⟩ := (hall offset).1 hoffset
      exact ⟨source, unfilled_append_iff.2 hunfilled⟩
    · rintro ⟨source, hunfilled⟩
      have hle : front.length ≤ position := by
        by_contra hlt
        exact hnone position source (Nat.lt_of_not_le hlt) hunfilled
      obtain ⟨offset, rfl⟩ := Nat.exists_eq_add_of_le hle
      exact ⟨offset, (hall offset).2 ⟨source, unfilled_append_iff.1 hunfilled⟩, rfl⟩
  · rw [List.forall₂_map_left_iff]
    exact heach.imp fun _ _ hunfilled => unfilled_append_iff.2 hunfilled

/-- A placeholder at the front is the only one that begins in it. -/
theorem Unfilled.of_lt {name source source' rest : List Char} {position : Nat}
    (hspells : Spells name source) (h : Unfilled value? (source ++ rest) position source')
    (hlt : position < source.length) :
    position = 0 ∧ source' = source ∧ value? (String.ofList name) = none := by
  obtain ⟨name', hoccurs, hvalue⟩ := h
  obtain rfl := hoccurs.eq_zero_of_lt hspells hlt
  obtain ⟨hspells', behind, hbehind⟩ := occurs_zero_iff.1 hoccurs
  obtain ⟨rfl, rfl⟩ := hspells.eq_of_append_eq hspells' hbehind
  exact ⟨rfl, rfl, hvalue⟩

/-- A placeholder without a value at the front comes first. -/
theorem ListsUnfilled.cons {name source rest : List Char} {sources : List (List Char)}
    (hspells : Spells name source) (hvalue : value? (String.ofList name) = none)
    (h : ListsUnfilled value? rest sources) :
    ListsUnfilled value? (source ++ rest) (source :: sources) := by
  obtain ⟨positions, hsorted, hall, heach⟩ := h
  have hfirst : Unfilled value? (source ++ rest) 0 source :=
    ⟨name, occurs_zero_iff.2 ⟨hspells, rest, rfl⟩, hvalue⟩
  have hlength : 0 < source.length := by
    obtain ⟨interior, rfl, -, -⟩ := hspells.interior
    exact Nat.succ_pos _
  refine ⟨0 :: positions.map (source.length + ·), ?_, fun position => ?_, ?_⟩
  · rw [List.pairwise_cons]
    refine ⟨fun position hmem => ?_, hsorted.map _ fun _ _ hlt => Nat.add_lt_add_left hlt _⟩
    obtain ⟨offset, -, rfl⟩ := List.mem_map.1 hmem
    omega
  · rw [List.mem_cons, List.mem_map]
    constructor
    · rintro (rfl | ⟨offset, hoffset, rfl⟩)
      · exact ⟨source, hfirst⟩
      · obtain ⟨source', hunfilled⟩ := (hall offset).1 hoffset
        exact ⟨source', unfilled_append_iff.2 hunfilled⟩
    · rintro ⟨source', hunfilled⟩
      by_cases hlt : position < source.length
      · exact .inl (hunfilled.of_lt hspells hlt).1
      · obtain ⟨offset, rfl⟩ := Nat.exists_eq_add_of_le (Nat.le_of_not_lt hlt)
        exact .inr ⟨offset, (hall offset).2 ⟨source', unfilled_append_iff.1 hunfilled⟩, rfl⟩
  · refine List.Forall₂.cons hfirst ?_
    rw [List.forall₂_map_left_iff]
    exact heach.imp fun _ _ hunfilled => unfilled_append_iff.2 hunfilled

/-! ## Finding it again -/

/-- The placeholders that filling leaves in place can be listed, and they are found in the
filled template in this order, whatever stands in front of it and whatever the values are. -/
theorem exists_listsUnfilled_sublist (value? : String → Option String) (template : List Char) :
    ∃ sources, ListsUnfilled value? template sources ∧
      ∀ front, sources.Sublist (leftovers (front ++ fill value? template)) := by
  induction template using scan.induct with
  | case1 => exact ⟨[], .nil, fun front => List.nil_sublist _⟩
  | case2 c more name rest found ih =>
      obtain ⟨sources, hlists, hsublist⟩ := ih
      obtain ⟨source, hspells, heq⟩ := spells_of_placeholder? found
      rw [heq, fill_of_spells value? hspells, Token.fill]
      cases hvalue : value? (String.ofList name) with
      | some value =>
          refine ⟨sources, hlists.append fun position source' hlt hunfilled => ?_,
            fun front => ?_⟩
          · have hnone := (hunfilled.of_lt hspells hlt).2.2
            rw [hvalue] at hnone
            cases hnone
          · show sources.Sublist (leftovers (front ++ (value.toList ++ fill value? rest)))
            rw [← List.append_assoc]
            exact hsublist (front ++ value.toList)
      | none =>
          refine ⟨source :: sources, hlists.cons hspells hvalue, fun front => ?_⟩
          show (source :: sources).Sublist (leftovers (front ++ (source ++ fill value? rest)))
          rw [leftovers_append_of_isBraced hspells.isBraced]
          exact ((hsublist []).cons_cons source).trans (List.sublist_append_right _ _)
  | case3 c more found ih =>
      obtain ⟨sources, hlists, hsublist⟩ := ih
      have hlists' : ListsUnfilled value? ([c] ++ more) sources := by
        refine hlists.append fun position source hlt hunfilled => ?_
        obtain rfl : position = 0 := by simpa using hlt
        obtain ⟨name, hoccurs, -⟩ := hunfilled
        obtain ⟨hspells, behind, hbehind⟩ := occurs_zero_iff.1 hoccurs
        have hread := placeholder?_of_spells hspells behind
        rw [← hbehind, List.singleton_append, found] at hread
        cases hread
      refine ⟨sources, hlists', fun front => ?_⟩
      have hsplit : front ++ c :: fill value? more = (front ++ [c]) ++ fill value? more := by
        rw [List.append_assoc, List.singleton_append]
      rw [fill_cons_of_none value? found, hsplit]
      exact hsublist (front ++ [c])

end CanvasPress.Template
