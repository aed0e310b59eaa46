/-
# What squeezing keeps

Squeezing works on runs of blanks, and tags end where blanks do not matter, so markup can
be squeezed piece by piece: a tag by itself, and the text between two tags by itself.  A
tag keeps everything but the length of its runs of blanks, and so does a text that is not
blank; only a blank text disappears.  `tidy` is squeezing without the trimming at the
ends, which is what acts on the pieces.
-/

import CanvasPress.Proofs.Text.Escape
import CanvasPress.Text.Squeeze
import Mathlib.Data.List.Basic
import Mathlib.Data.List.TakeWhile

namespace CanvasPress.Text

/-! ## Runs of blanks -/

theorem collapse_cons_of_not_isBlank {c : Char} (h : isBlank c = false) (s : List Char) :
    collapse (c :: s) = c :: collapse s := by
  rw [collapse, h]
  rfl

/-- Runs of blanks end at every character that is not blank. -/
theorem collapse_append_cons {c : Char} (h : isBlank c = false) (s t : List Char) :
    collapse (s ++ c :: t) = collapse s ++ c :: collapse t := by
  induction s with
  | nil => exact collapse_cons_of_not_isBlank h t
  | cons d s ih =>
      have hhead : ((s ++ c :: t).head?.map isBlank).getD false =
          (s.head?.map isBlank).getD false := by
        cases s with
        | nil => simp [h]
        | cons e s => rfl
      rw [List.cons_append, collapse, collapse, hhead, ih]
      split
      · split <;> rfl
      · rfl

theorem collapse_append_of_not_isBlank {s : List Char} (h : ∀ c ∈ s, isBlank c = false)
    (t : List Char) : collapse (s ++ t) = s ++ collapse t := by
  induction s with
  | nil => rfl
  | cons c s ih =>
      rw [List.cons_append, collapse_cons_of_not_isBlank (h c List.mem_cons_self),
        ih fun d hd => h d (List.mem_cons_of_mem _ hd), List.cons_append]

/-- Collapsing brings in spaces only. -/
theorem mem_of_mem_collapse {s : List Char} {c : Char} (h : c ∈ collapse s) :
    c = ' ' ∨ c ∈ s := by
  induction s with
  | nil => cases h
  | cons d s ih =>
      rw [collapse] at h
      split at h
      · split at h
        · exact (ih h).imp_right (List.mem_cons_of_mem _)
        · rcases List.mem_cons.1 h with rfl | h
          · exact .inl rfl
          · exact (ih h).imp_right (List.mem_cons_of_mem _)
      · rcases List.mem_cons.1 h with rfl | h
        · exact .inr List.mem_cons_self
        · exact (ih h).imp_right (List.mem_cons_of_mem _)

theorem not_mem_collapse {s : List Char} {c : Char} (hc : isBlank c = false) (h : c ∉ s) :
    c ∉ collapse s := by
  intro hmem
  rcases mem_of_mem_collapse hmem with rfl | hmem
  · cases hc
  · exact h hmem

/-- Collapsing takes blanks away only. -/
theorem mem_collapse {s : List Char} {c : Char} (h : c ∈ s) (hc : isBlank c = false) :
    c ∈ collapse s := by
  obtain ⟨front, behind, rfl⟩ := List.append_of_mem h
  rw [collapse_append_cons hc]
  exact List.mem_append_right _ List.mem_cons_self

/-- A run of blanks becomes one space. -/
theorem collapse_of_all_isBlank {s : List Char} (hne : s ≠ []) (h : ∀ c ∈ s, isBlank c = true) :
    collapse s = [' '] := by
  induction s with
  | nil => exact absurd rfl hne
  | cons c s ih =>
      rw [collapse, if_pos (h c List.mem_cons_self)]
      cases s with
      | nil => rfl
      | cons d s =>
          have hd : isBlank d = true := h d (List.mem_cons_of_mem _ List.mem_cons_self)
          rw [List.head?_cons, Option.map_some, hd]
          exact ih (List.cons_ne_nil _ _) fun e he => h e (List.mem_cons_of_mem _ he)

theorem isBlank_of_collapse_eq_space {s : List Char} (h : collapse s = [' ']) {c : Char}
    (hc : c ∈ s) : isBlank c = true := by
  by_contra hblank
  have hmem := mem_collapse hc (by simpa using hblank)
  rw [h, List.mem_singleton] at hmem
  subst hmem
  exact hblank (by decide)

/-! ## Tags that meet -/

theorem joinTags_cons_of_ne {c : Char} (h : c ≠ '>') (s : List Char) :
    joinTags (c :: s) = c :: joinTags s := by
  rw [joinTags]
  intro rest hc
  exact absurd hc h

theorem joinTags_append_of_not_mem {s : List Char} (h : '>' ∉ s) (t : List Char) :
    joinTags (s ++ t) = s ++ joinTags t := by
  induction s with
  | nil => rfl
  | cons c s ih =>
      rw [List.mem_cons, not_or] at h
      rw [List.cons_append, joinTags_cons_of_ne (Ne.symm h.1), ih h.2, List.cons_append]

/-- What is dropped never reaches over the end of a tag. -/
theorem joinTags_append (s t : List Char) :
    joinTags (s ++ '>' :: t) = joinTags s ++ joinTags ('>' :: t) := by
  fun_induction joinTags s with
  | case1 rest ih =>
      rw [List.cons_append, List.cons_append, List.cons_append, joinTags, ← List.cons_append, ih,
        List.cons_append]
  | case2 c rest hpattern ih =>
      rw [List.cons_append, joinTags, ih, List.cons_append]
      intro more hc hmore
      match rest, hmore with
      | [], hmore => cases hmore
      | [_], hmore => cases hmore
      | _ :: _ :: rest, hmore =>
          cases hmore
          exact hpattern rest hc rfl
  | case3 => rfl

/-! ## Markup, piece by piece -/

/-- No tag opens or closes in a text. -/
def IsText (s : List Char) : Prop :=
  '<' ∉ s ∧ '>' ∉ s

theorem isText_nil : IsText [] :=
  ⟨List.not_mem_nil, List.not_mem_nil⟩

theorem isText_of_isMarkup {s : List Char} (h : ∀ c ∈ s, isMarkup c = false) : IsText s :=
  ⟨fun hmem => absurd (h _ hmem) (by decide), fun hmem => absurd (h _ hmem) (by decide)⟩

theorem isText_escapeList (s : List Char) : IsText (escapeList s) :=
  isText_of_isMarkup fun _ => isMarkup_of_mem_escapeList

/-- Squeezing without the trimming at the ends. -/
def tidy (s : List Char) : List Char :=
  joinTags (collapse s)

/-- What is left of a text between two tags. -/
def between (text : List Char) : List Char :=
  if text.all isBlank then [] else collapse text

/-- Squeezing starts anew at the end of every tag. -/
theorem tidy_append (s t : List Char) : tidy (s ++ '>' :: t) = tidy s ++ tidy ('>' :: t) := by
  rw [tidy, collapse_append_cons (by decide), joinTags_append, tidy, tidy,
    collapse_cons_of_not_isBlank (by decide)]

/-- A tag is squeezed by itself. -/
theorem tidy_tag {tag : List Char} (h : '>' ∉ tag) (rest : List Char) :
    tidy ('<' :: tag ++ '>' :: rest) = '<' :: collapse tag ++ tidy ('>' :: rest) := by
  have hcollapse : '>' ∉ '<' :: collapse tag := by
    rw [List.mem_cons, not_or]
    exact ⟨by decide, not_mem_collapse (by decide) h⟩
  rw [tidy, collapse_append_cons (by decide), collapse_cons_of_not_isBlank (by decide),
    joinTags_append_of_not_mem hcollapse, tidy, collapse_cons_of_not_isBlank (by decide)]

/-- A text between two tags is squeezed by itself. -/
theorem tidy_text {text : List Char} (h : IsText text) (rest : List Char) :
    tidy ('>' :: text ++ '<' :: rest) = '>' :: between text ++ tidy ('<' :: rest) := by
  have hcollapse : tidy ('>' :: text ++ '<' :: rest) =
      joinTags ('>' :: (collapse text ++ '<' :: collapse rest)) := by
    rw [tidy, collapse_append_cons (by decide), collapse_cons_of_not_isBlank (by decide)]
    rfl
  have hrest : tidy ('<' :: rest) = joinTags ('<' :: collapse rest) := by
    rw [tidy, collapse_cons_of_not_isBlank (by decide)]
  rw [hcollapse, hrest, between]
  split
  · rename_i hblank
    rw [List.all_eq_true] at hblank
    cases text with
    | nil =>
        show joinTags ('>' :: '<' :: collapse rest) = '>' :: joinTags ('<' :: collapse rest)
        rw [joinTags]
        simp
    | cons c text =>
        rw [collapse_of_all_isBlank (List.cons_ne_nil c text) hblank]
        show joinTags ('>' :: ' ' :: '<' :: collapse rest) = '>' :: joinTags ('<' :: collapse rest)
        rw [joinTags]
  · rename_i hblank
    rw [joinTags, joinTags_append_of_not_mem (not_mem_collapse (by decide) h.2),
      List.cons_append]
    -- What stands between the tags is not a space alone, because the text is not blank.
    intro more _ hmore
    have hkeeps : '<' ∉ collapse text := not_mem_collapse (by decide) h.1
    match hcollapsed : collapse text, hmore with
    | [], hmore => cases hmore
    | [c], hmore =>
        cases hmore
        exact hblank (List.all_eq_true.2 fun c hc => isBlank_of_collapse_eq_space hcollapsed hc)
    | c :: d :: _, hmore =>
        cases hmore
        rw [hcollapsed] at hkeeps
        exact hkeeps (List.mem_cons_of_mem _ List.mem_cons_self)

/-! ## Telling squeezed markup apart -/

theorem exists_tidy_cons {c : Char} (h : isBlank c = false) (s : List Char) :
    ∃ more, tidy (c :: s) = c :: more := by
  rw [tidy, collapse_cons_of_not_isBlank h]
  by_cases hpattern : ∃ more, c = '>' ∧ collapse s = ' ' :: '<' :: more
  · obtain ⟨more, rfl, hmore⟩ := hpattern
    rw [hmore, joinTags]
    exact ⟨_, rfl⟩
  · rw [joinTags]
    · exact ⟨_, rfl⟩
    · intro more hc hmore
      exact hpattern ⟨more, hc, hmore⟩

/-- Two texts that differ only behind a front that ends a tag differ there. -/
theorem tidy_cancel {front rest rest' : List Char} (hends : ['>'] <:+ front)
    (h : tidy (front ++ rest) = tidy (front ++ rest')) :
    tidy ('>' :: rest) = tidy ('>' :: rest') := by
  obtain ⟨front, rfl⟩ := hends
  rw [List.append_assoc, List.append_assoc, List.singleton_append, List.singleton_append,
    tidy_append, tidy_append front] at h
  exact List.append_cancel_left h

/-- Texts are told apart by the first place where a character stands that neither holds
before. -/
theorem eq_of_append_cons_eq {c : Char} {s s' t t' : List Char} (hs : c ∉ s) (hs' : c ∉ s')
    (h : s ++ c :: t = s' ++ c :: t') : s = s' ∧ t = t' := by
  induction s generalizing s' with
  | nil =>
      cases s' with
      | nil => exact ⟨rfl, (List.cons.inj h).2⟩
      | cons d s' =>
          obtain ⟨rfl, -⟩ := List.cons.inj h
          exact absurd List.mem_cons_self hs'
  | cons d s ih =>
      cases s' with
      | nil =>
          obtain ⟨rfl, -⟩ := List.cons.inj h
          exact absurd List.mem_cons_self hs
      | cons d' s' =>
          obtain ⟨rfl, htail⟩ := List.cons.inj h
          obtain ⟨rfl, ht⟩ := ih (fun hmem => hs (List.mem_cons_of_mem _ hmem))
            (fun hmem => hs' (List.mem_cons_of_mem _ hmem)) htail
          exact ⟨rfl, ht⟩

/-- What follows two tags is the same if all is the same from the tags on. -/
theorem tidy_tag_inj {tag tag' rest rest' : List Char} (htag : '>' ∉ tag) (htag' : '>' ∉ tag')
    (h : tidy ('<' :: tag ++ '>' :: rest) = tidy ('<' :: tag' ++ '>' :: rest')) :
    collapse tag = collapse tag' ∧ tidy ('>' :: rest) = tidy ('>' :: rest') := by
  rw [tidy_tag htag, tidy_tag htag'] at h
  obtain ⟨more, hmore⟩ := exists_tidy_cons (c := '>') (by decide) rest
  obtain ⟨more', hmore'⟩ := exists_tidy_cons (c := '>') (by decide) rest'
  rw [hmore, hmore'] at h ⊢
  obtain ⟨hcollapse, rfl⟩ := eq_of_append_cons_eq (not_mem_collapse (by decide) htag)
    (not_mem_collapse (by decide) htag') (List.cons.inj h).2
  exact ⟨hcollapse, rfl⟩

theorem not_mem_between {text : List Char} {c : Char} (hc : isBlank c = false) (h : c ∉ text) :
    c ∉ between text := by
  rw [between]
  split
  · exact List.not_mem_nil
  · exact not_mem_collapse hc h

theorem mem_between {text : List Char} {c : Char} (h : c ∈ text) (hc : isBlank c = false) :
    c ∈ between text := by
  have hblank : ¬ text.all isBlank = true := by
    intro hall
    rw [List.all_eq_true.1 hall c h] at hc
    cases hc
  rw [between, if_neg hblank]
  exact mem_collapse h hc

/-- Two texts behind tags are the same, up to blanks, if all is the same from there on. -/
theorem tidy_text_inj {text text' rest rest' : List Char} (htext : IsText text)
    (htext' : IsText text')
    (h : tidy ('>' :: text ++ '<' :: rest) = tidy ('>' :: text' ++ '<' :: rest')) :
    between text = between text' ∧ tidy ('<' :: rest) = tidy ('<' :: rest') := by
  rw [tidy_text htext, tidy_text htext'] at h
  obtain ⟨more, hmore⟩ := exists_tidy_cons (c := '<') (by decide) rest
  obtain ⟨more', hmore'⟩ := exists_tidy_cons (c := '<') (by decide) rest'
  rw [hmore, hmore'] at h ⊢
  obtain ⟨hbetween, rfl⟩ := eq_of_append_cons_eq (not_mem_between (by decide) htext.1)
    (not_mem_between (by decide) htext'.1) (List.cons.inj h).2
  exact ⟨hbetween, rfl⟩

/-- Where no text stands between two tags, all is the same from the second tag on. -/
theorem tidy_open_inj {rest rest' : List Char}
    (h : tidy ('>' :: '<' :: rest) = tidy ('>' :: '<' :: rest')) :
    tidy ('<' :: rest) = tidy ('<' :: rest') :=
  (tidy_text_inj isText_nil isText_nil h).2

/-- Tags are told apart by their second character. -/
theorem tidy_ne_of_second_ne {c c' : Char} (hc : isBlank c = false) (hc' : isBlank c' = false)
    (hne : c ≠ c') (rest rest' : List Char) :
    tidy ('<' :: c :: rest) ≠ tidy ('<' :: c' :: rest') := by
  have hcons (d : Char) (s : List Char) : tidy ('<' :: d :: s) = '<' :: tidy (d :: s) := by
    rw [tidy, collapse_cons_of_not_isBlank (by decide), joinTags_cons_of_ne (by decide), tidy]
  obtain ⟨more, hmore⟩ := exists_tidy_cons hc rest
  obtain ⟨more', hmore'⟩ := exists_tidy_cons hc' rest'
  rw [hcons, hcons, hmore, hmore']
  intro h
  exact hne (List.cons.inj (List.cons.inj h).2).1

/-! ## The ends -/

/-- Of markup that begins with a tag and ends with one and a line break, trimming takes
the last space away only. -/
theorem tidy_eq_squeezeList_append (body : List Char) :
    tidy ('<' :: body ++ ['>', '\n']) = squeezeList ('<' :: body ++ ['>', '\n']) ++ [' '] := by
  obtain ⟨more, hmore⟩ := exists_tidy_cons (c := '<') (by decide) body
  have htidy : tidy ('<' :: body ++ ['>', '\n']) = '<' :: (more ++ ['>', ' ']) := by
    rw [tidy_append, hmore]
    rfl
  have hleft : trimLeft ('<' :: (more ++ ['>', ' '])) = '<' :: (more ++ ['>', ' ']) := rfl
  have hright : trimRight ('<' :: (more ++ ['>', ' '])) = '<' :: (more ++ ['>']) := by
    simp [trimRight, trimLeft, isBlank]
  rw [squeezeList, ← tidy, htidy, trimList, hleft, hright]
  simp

/-- A trimmed text does not begin with a blank. -/
theorem isBlank_of_head?_trimList {s : List Char} {c : Char} (h : c ∈ (trimList s).head?) :
    isBlank c = false := by
  obtain ⟨behind, hbehind⟩ : trimList s <+: trimLeft s := by
    rw [trimList, trimRight, trimLeft, ← List.reverse_suffix, List.reverse_reverse]
    exact List.dropWhile_suffix _
  have hhead : (trimLeft s).head? = some c := by
    rw [← hbehind, List.head?_append, h]
    rfl
  have hfirst := List.head?_dropWhile_not isBlank s
  rw [← trimLeft, hhead] at hfirst
  simpa using hfirst

/-! ## Escaped text -/

/-- Escaped text begins with a blank where the text does. -/
theorem isBlank_head?_escapeList (s : List Char) :
    (escapeList s).head?.map isBlank = s.head?.map isBlank := by
  cases s with
  | nil => rfl
  | cons c s =>
      rw [escapeList_cons]
      by_cases hc : isBlank c = true
      · rw [escapeChar_of_isBlank hc]
        rfl
      · obtain ⟨hne, hplain⟩ := escapeChar_of_not_isBlank (by simpa using hc)
        obtain ⟨d, more, hform⟩ := List.exists_cons_of_ne_nil hne
        rw [hform] at hplain ⊢
        simp [hplain d List.mem_cons_self, hc]

/-- Escaped text is blank where the text is. -/
theorem all_isBlank_escapeList (s : List Char) :
    (escapeList s).all isBlank = s.all isBlank := by
  induction s with
  | nil => rfl
  | cons c s ih =>
      rw [escapeList_cons, List.all_append, ih, List.all_cons]
      by_cases hc : isBlank c = true
      · rw [escapeChar_of_isBlank hc, List.all_cons, List.all_nil, Bool.and_true]
      · obtain ⟨hne, hplain⟩ := escapeChar_of_not_isBlank (by simpa using hc)
        obtain ⟨d, more, hform⟩ := List.exists_cons_of_ne_nil hne
        rw [hform] at hplain ⊢
        simp [hplain d List.mem_cons_self, hc]

/-- Blanks collapse in escaped text as they do in the text. -/
theorem collapse_escapeList (s : List Char) :
    collapse (escapeList s) = escapeList (collapse s) := by
  induction s with
  | nil => rfl
  | cons c s ih =>
      rw [escapeList_cons]
      by_cases hc : isBlank c = true
      · rw [escapeChar_of_isBlank hc, List.singleton_append, collapse, collapse, if_pos hc,
          if_pos hc, isBlank_head?_escapeList, ih]
        split <;> rfl
      · have hc' : isBlank c = false := by simpa using hc
        rw [collapse_append_of_not_isBlank (escapeChar_of_not_isBlank hc').2, ih,
          collapse_cons_of_not_isBlank hc', escapeList_cons]

/-- Of escaped text between two tags, that is left which is left of the text itself. -/
theorem between_escapeList {s : List Char} (h : s.all isBlank = false) :
    between (escapeList s) = escapeList (collapse s) := by
  rw [between, all_isBlank_escapeList, h, collapse_escapeList]
  rfl

end CanvasPress.Text
