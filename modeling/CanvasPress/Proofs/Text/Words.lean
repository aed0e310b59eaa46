/-
# Squeezed markup, word by word

What squeezing does to a text shows in the words of the text, its longest runs of
characters that are not blank.  Every text has words, and only one list of them.  The
first pass leaves the words with one space between any two of them and the second drops
the space between two tags, so that, once the ends are trimmed, the words are left with
the gaps of `joinWords`.  Of the blanks nothing else is kept, of the words everything is,
and squeezing what is squeezed changes nothing.
-/

import CanvasPress.Proofs.Text.Squeeze

namespace CanvasPress.Text

/-! ## Words -/

/-- There are only blanks, or nothing at all. -/
def IsGap (s : List Char) : Prop :=
  ∀ c ∈ s, isBlank c = true

/-- There are characters, and none of them is blank. -/
structure IsWord (w : List Char) : Prop where
  ne_nil : w ≠ []
  solid : ∀ c ∈ w, isBlank c = false

/-- A word that stands in front of this text ends there. -/
def EndsWord (s : List Char) : Prop :=
  ∀ c ∈ s.head?, isBlank c = true

/-- The words of a text, each as long as can be, in the order in which they stand. -/
inductive Splits : List Char → List (List Char) → Prop
  | blanks {gap : List Char} : IsGap gap → Splits gap []
  | word {gap w s : List Char} {ws : List (List Char)} :
      IsGap gap → IsWord w → EndsWord s → Splits s ws → Splits (gap ++ w ++ s) (w :: ws)

theorem isGap_nil : IsGap [] :=
  fun _ h => absurd h List.not_mem_nil

theorem IsGap.endsWord {s : List Char} (h : IsGap s) : EndsWord s :=
  fun c hc => h c (List.mem_of_mem_head? hc)

/-- A word stands out from the blanks in front of it. -/
theorem IsWord.exists_cons {w : List Char} (h : IsWord w) :
    ∃ c more, w = c :: more ∧ isBlank c = false := by
  obtain ⟨c, more, rfl⟩ := List.exists_cons_of_ne_nil h.ne_nil
  exact ⟨c, more, rfl, h.solid c List.mem_cons_self⟩

theorem words_nil : words [] = [] :=
  rfl

theorem words_cons_of_isBlank {c : Char} (hc : isBlank c = true) (s : List Char) :
    words (c :: s) = words s := by
  rw [words.eq_def]
  exact if_pos hc

theorem words_gap_append {gap : List Char} (h : IsGap gap) (s : List Char) :
    words (gap ++ s) = words s := by
  induction gap with
  | nil => rfl
  | cons c gap ih =>
      rw [List.cons_append, words_cons_of_isBlank (h c List.mem_cons_self),
        ih fun d hd => h d (List.mem_cons_of_mem c hd)]

theorem words_cons_of_endsWord {c : Char} {s : List Char} (hc : isBlank c = false)
    (hs : EndsWord s) : words (c :: s) = [c] :: words s := by
  rw [words.eq_def]
  cases s with
  | nil => simp [hc, words_nil]
  | cons d s => simp [hc, hs d rfl]

theorem words_cons_cons {c d : Char} {s w : List Char} {ws : List (List Char)}
    (hc : isBlank c = false) (hd : isBlank d = false) (h : words (d :: s) = w :: ws) :
    words (c :: d :: s) = (c :: w) :: ws := by
  rw [words.eq_def]
  simp [hc, hd, h]

theorem words_word_append {w s : List Char} (hw : IsWord w) (hs : EndsWord s) :
    words (w ++ s) = w :: words s := by
  obtain ⟨hne, hsolid⟩ := hw
  induction w with
  | nil => exact absurd rfl hne
  | cons c w ih =>
      have hc : isBlank c = false := hsolid c List.mem_cons_self
      cases w with
      | nil => exact words_cons_of_endsWord hc hs
      | cons d w =>
          have hrest : words (d :: w ++ s) = (d :: w) :: words s :=
            ih (List.cons_ne_nil d w) fun e he => hsolid e (List.mem_cons_of_mem c he)
          exact words_cons_cons hc (hsolid d (by simp)) hrest

/-- A text has no other words than `words` finds. -/
theorem Splits.eq_words {s : List Char} {ws : List (List Char)} (h : Splits s ws) :
    ws = words s := by
  induction h with
  | @blanks gap hgap =>
      rw [← List.append_nil gap, words_gap_append hgap, words_nil]
  | word hgap hw hs _ ih =>
      rw [List.append_assoc, words_gap_append hgap, words_word_append hw hs, ih]

/-- A blank in front of a text belongs to no word. -/
theorem Splits.cons_blank {c : Char} {s : List Char} {ws : List (List Char)}
    (hc : isBlank c = true) (h : Splits s ws) : Splits (c :: s) ws := by
  cases h with
  | blanks hgap => exact .blanks (List.forall_mem_cons.2 ⟨hc, hgap⟩)
  | word hgap hw hs hrest =>
      exact .word (List.forall_mem_cons.2 ⟨hc, hgap⟩) hw hs hrest

/-- A character in front of a word belongs to the word. -/
theorem Splits.cons_solid {c : Char} {s : List Char} {ws : List (List Char)}
    (hc : isBlank c = false) (hs : ¬ EndsWord s) (h : Splits s ws) :
    ∃ w more, ws = w :: more ∧ Splits (c :: s) ((c :: w) :: more) := by
  cases h with
  | blanks hgap => exact absurd hgap.endsWord hs
  | @word gap w rest more hgap hw hrest hmore =>
      have hnil : gap = [] := by
        cases gap with
        | nil => rfl
        | cons d gap =>
            refine absurd (fun e he => ?_) hs
            cases he
            exact hgap d List.mem_cons_self
      subst hnil
      exact ⟨w, more, rfl, Splits.word isGap_nil
        ⟨List.cons_ne_nil c w, List.forall_mem_cons.2 ⟨hc, hw.solid⟩⟩ hrest hmore⟩

/-- Every text has words, and `words` finds them. -/
theorem splits_words (s : List Char) : Splits s (words s) := by
  induction s with
  | nil => exact .blanks isGap_nil
  | cons c s ih =>
      by_cases hc : isBlank c = true
      · rw [words_cons_of_isBlank hc]
        exact ih.cons_blank hc
      have hc : isBlank c = false := by simpa using hc
      by_cases hs : EndsWord s
      · rw [words_cons_of_endsWord hc hs]
        exact .word isGap_nil ⟨List.cons_ne_nil c [], by simpa using hc⟩ hs ih
      · cases s with
        | nil => exact absurd isGap_nil.endsWord hs
        | cons d s =>
            have hd : isBlank d = false := by simpa [EndsWord] using hs
            obtain ⟨w, more, hwords, hsplits⟩ := ih.cons_solid hc hs
            rw [words_cons_cons hc hd hwords]
            exact hsplits

theorem splits_iff {s : List Char} {ws : List (List Char)} : Splits s ws ↔ ws = words s :=
  ⟨Splits.eq_words, fun h => h ▸ splits_words s⟩

theorem Splits.isWord {s : List Char} {ws : List (List Char)} (h : Splits s ws) :
    ∀ w ∈ ws, IsWord w := by
  induction h with
  | blanks _ => exact fun _ hw => absurd hw List.not_mem_nil
  | word _ hw _ _ ih => exact List.forall_mem_cons.2 ⟨hw, ih⟩

/-- Words hold the characters of a text that are not blank. -/
theorem Splits.flatten_eq {s : List Char} {ws : List (List Char)} (h : Splits s ws) :
    ws.flatten = s.filter fun c => !isBlank c := by
  induction h with
  | blanks hgap =>
      exact (List.filter_eq_nil_iff.2 fun c hc => by simp [hgap c hc]).symm
  | word hgap hw _ _ ih =>
      rw [List.filter_append, List.filter_append, ← ih,
        List.filter_eq_nil_iff.2 fun c hc => by simp [hgap c hc],
        List.filter_eq_self.2 fun c hc => by simp [hw.solid c hc]]
      rfl

/-! ## One space between words -/

/-- What is left of the blanks in front of a text. -/
def lead (s : List Char) : List Char :=
  collapse (s.takeWhile isBlank)

/-- Words with one space between any two of them. -/
def spaceOut (ws : List (List Char)) : List Char :=
  [' '].intercalate ws

theorem spaceOut_cons_cons (w v : List Char) (ws : List (List Char)) :
    spaceOut (w :: v :: ws) = w ++ ' ' :: spaceOut (v :: ws) := by
  simp [spaceOut, List.intercalate_cons_cons]

theorem isGap_lead (s : List Char) : IsGap (lead s) := by
  intro c hc
  rcases mem_of_mem_collapse hc with rfl | hmem
  · rfl
  · exact List.mem_takeWhile_imp hmem

theorem lead_of_isGap {s : List Char} (h : IsGap s) : lead s = collapse s := by
  rw [lead, List.takeWhile_eq_self_iff.2 h]

theorem lead_append_cons {gap : List Char} (hgap : IsGap gap) {c : Char}
    (hc : isBlank c = false) (s : List Char) : lead (gap ++ c :: s) = collapse gap := by
  rw [lead, List.takeWhile_append_of_pos hgap, List.takeWhile_cons_of_neg (by simp [hc]),
    List.append_nil]

/-- Where a word ends in front of more text, one space is left. -/
theorem lead_of_endsWord {s : List Char} (h : EndsWord s) (hne : s ≠ []) : lead s = [' '] := by
  obtain ⟨c, s, rfl⟩ := List.exists_cons_of_ne_nil hne
  refine collapse_of_all_isBlank ?_ fun d hd => List.mem_takeWhile_imp hd
  rw [List.takeWhile_cons_of_pos (h c rfl)]
  exact List.cons_ne_nil c _

theorem Splits.ne_nil {s w : List Char} {ws : List (List Char)} (h : Splits s (w :: ws)) :
    s ≠ [] := by
  cases h with
  | word _ hw _ _ => simp [hw.ne_nil]

/-- The first pass leaves one space between words, and blanks at the ends only where there
were some. -/
theorem Splits.collapse_eq {s : List Char} {ws : List (List Char)} (h : Splits s ws) :
    ∃ behind, IsGap behind ∧ collapse s = lead s ++ (spaceOut ws ++ behind) := by
  induction h with
  | blanks hgap => exact ⟨[], isGap_nil, by simp [lead_of_isGap hgap, spaceOut]⟩
  | @word gap w s ws hgap hw hs hsplits ih =>
      obtain ⟨behind, hbehind, hcollapse⟩ := ih
      obtain ⟨c, w, rfl, hc⟩ := hw.exists_cons
      have hform : collapse (gap ++ c :: w ++ s) = lead (gap ++ c :: w ++ s) ++
          (c :: w ++ (lead s ++ (spaceOut ws ++ behind))) := by
        rw [List.append_assoc, List.cons_append, lead_append_cons hgap hc,
          collapse_append_cons hc, ← collapse_cons_of_not_isBlank hc, ← List.cons_append,
          collapse_append_of_not_isBlank hw.solid, hcollapse]
      rw [hform]
      -- The blanks behind a word are the space in front of the next one, or end the text.
      cases ws with
      | nil =>
          refine ⟨lead s ++ behind, List.forall_mem_append.2 ⟨isGap_lead s, hbehind⟩, ?_⟩
          simp [spaceOut]
      | cons v ws =>
          refine ⟨behind, hbehind, ?_⟩
          rw [lead_of_endsWord hs hsplits.ne_nil, spaceOut_cons_cons]
          simp

/-! ## Nothing between tags -/

/-- A word stays as it is if no tag ends at its end that meets another. -/
theorem joinTags_word_append {w rest : List Char} (hw : ∀ c ∈ w, isBlank c = false)
    (h : w.getLast? = some '>' → ∀ more, rest ≠ ' ' :: '<' :: more) :
    joinTags (w ++ rest) = w ++ joinTags rest := by
  induction w with
  | nil => rfl
  | cons c w ih =>
      rw [List.cons_append, joinTags, ih, List.cons_append]
      · exact fun d hd => hw d (List.mem_cons_of_mem c hd)
      · intro hlast
        exact h (by simp [List.getLast?_cons, hlast])
      -- What stands behind a character decides, and behind a word's last it is the rest.
      · rintro more rfl hmore
        cases w with
        | nil => exact h rfl more hmore
        | cons d w =>
            obtain ⟨rfl, -⟩ := List.cons.inj hmore
            exact absurd (hw ' ' (by simp)) (by decide)

theorem joinTags_of_solid {w : List Char} (hw : ∀ c ∈ w, isBlank c = false) :
    joinTags w = w := by
  have hword : joinTags (w ++ []) = w ++ joinTags [] := joinTags_word_append hw (by simp)
  rwa [joinTags, List.append_nil] at hword

/-- Of the space between two words the gap is left that belongs there. -/
theorem joinTags_words {w v : List Char} (hw : IsWord w) (hv : IsWord v) (rest : List Char) :
    joinTags (w ++ ' ' :: (v ++ rest)) = w ++ wordGap w v ++ joinTags (v ++ rest) := by
  by_cases htags : w.getLast? = some '>' ∧ v.head? = some '<'
  · obtain ⟨front, rfl⟩ := List.getLast?_eq_some_iff.1 htags.1
    obtain ⟨v, rfl⟩ := List.head?_eq_some_iff.1 htags.2
    have hfront : joinTags front = front :=
      joinTags_of_solid fun c hc => hw.solid c (List.mem_append_left _ hc)
    rw [wordGap, if_pos htags, List.append_assoc, List.singleton_append, joinTags_append, hfront]
    simp [joinTags]
  · have hplain : w.getLast? = some '>' → ∀ more, ' ' :: (v ++ rest) ≠ ' ' :: '<' :: more := by
      intro hlast more heq
      obtain ⟨c, v, rfl, -⟩ := hv.exists_cons
      obtain ⟨-, hrest⟩ := List.cons.inj heq
      obtain ⟨rfl, -⟩ := List.cons.inj hrest
      exact htags ⟨hlast, rfl⟩
    rw [wordGap, if_neg htags, joinTags_word_append hw.solid hplain,
      joinTags_cons_of_ne (by decide)]
    simp

theorem exists_spaceOut_cons (w : List Char) (ws : List (List Char)) :
    ∃ more, spaceOut (w :: ws) = w ++ more := by
  cases ws with
  | nil => exact ⟨[], by simp [spaceOut]⟩
  | cons v ws => exact ⟨_, spaceOut_cons_cons w v ws⟩

theorem exists_joinWords_cons (w : List Char) (ws : List (List Char)) :
    ∃ more, joinWords (w :: ws) = w ++ more := by
  cases ws with
  | nil => exact ⟨[], (List.append_nil w).symm⟩
  | cons v ws => exact ⟨_, List.append_assoc _ _ _⟩

theorem joinTags_of_isGap {s : List Char} (h : IsGap s) : joinTags s = s := by
  have hmem : '>' ∉ s := fun hmem => absurd (h _ hmem) (by decide)
  simpa [joinTags] using joinTags_append_of_not_mem hmem []

/-- The second pass leaves the words with the gaps that belong between them. -/
theorem joinTags_spaceOut {ws : List (List Char)} (hws : ∀ w ∈ ws, IsWord w)
    {behind : List Char} (hbehind : IsGap behind) :
    joinTags (spaceOut ws ++ behind) = joinWords ws ++ behind := by
  fun_induction joinWords ws with
  | case1 => simpa [spaceOut] using joinTags_of_isGap hbehind
  | case2 w =>
      have hplain : w.getLast? = some '>' → ∀ more, behind ≠ ' ' :: '<' :: more := by
        rintro - more rfl
        exact absurd (hbehind '<' (by simp)) (by decide)
      have hspaced : spaceOut [w] = w := by simp [spaceOut]
      rw [hspaced, joinTags_word_append (hws w List.mem_cons_self).solid hplain,
        joinTags_of_isGap hbehind]
  | case3 w v ws ih =>
      obtain ⟨hw, hmore⟩ := List.forall_mem_cons.1 hws
      obtain ⟨more, hspaced⟩ := exists_spaceOut_cons v ws
      have hrest := ih hmore
      rw [hspaced, List.append_assoc] at hrest
      rw [spaceOut_cons_cons, hspaced, List.append_assoc, List.cons_append, List.append_assoc,
        joinTags_words hw (hmore v List.mem_cons_self), hrest]
      simp

/-! ## Nothing at the ends -/

/-- Words stand at both ends of words with their gaps. -/
theorem isBlank_of_head?_joinWords {ws : List (List Char)} (hws : ∀ w ∈ ws, IsWord w) {c : Char}
    (hc : c ∈ (joinWords ws).head?) : isBlank c = false := by
  cases ws with
  | nil => cases hc
  | cons w ws =>
      obtain ⟨more, hform⟩ := exists_joinWords_cons w ws
      obtain ⟨d, w, rfl, hd⟩ := (hws w List.mem_cons_self).exists_cons
      rw [hform] at hc
      cases hc
      exact hd

theorem isBlank_of_getLast?_joinWords {ws : List (List Char)} (hws : ∀ w ∈ ws, IsWord w)
    {c : Char} (hc : c ∈ (joinWords ws).getLast?) : isBlank c = false := by
  fun_induction joinWords ws with
  | case1 => cases hc
  | case2 w => exact (hws w List.mem_cons_self).solid c (List.mem_of_getLast? hc)
  | case3 w v ws ih =>
      obtain ⟨hw, hmore⟩ := List.forall_mem_cons.1 hws
      obtain ⟨more, hform⟩ := exists_joinWords_cons v ws
      obtain ⟨d, v, rfl, hd⟩ := (hmore v List.mem_cons_self).exists_cons
      refine ih hmore ?_
      rw [List.getLast?_append_of_ne_nil _ (by simp [hform])] at hc
      exact hc

theorem trimLeft_gap_append {gap s : List Char} (hgap : IsGap gap)
    (hs : ∀ c ∈ s.head?, isBlank c = false) : trimLeft (gap ++ s) = s := by
  rw [trimLeft, List.dropWhile_append_of_pos hgap]
  cases s with
  | nil => rfl
  | cons c s => exact List.dropWhile_cons_of_neg (by simp [hs c rfl])

theorem trimRight_append_gap {gap s : List Char} (hgap : IsGap gap)
    (hs : ∀ c ∈ s.getLast?, isBlank c = false) : trimRight (s ++ gap) = s := by
  rw [trimRight, List.reverse_append, trimLeft_gap_append, List.reverse_reverse]
  · exact fun c hc => hgap c (List.mem_reverse.1 hc)
  · simpa using hs

/-- Trimming takes the blanks at the ends away. -/
theorem trimList_of_gaps {front s behind : List Char} (hfront : IsGap front)
    (hbehind : IsGap behind) (hhead : ∀ c ∈ s.head?, isBlank c = false)
    (hlast : ∀ c ∈ s.getLast?, isBlank c = false) : trimList (front ++ (s ++ behind)) = s := by
  cases s with
  | nil =>
      have hblank : trimLeft ((front ++ behind) ++ []) = [] :=
        trimLeft_gap_append (List.forall_mem_append.2 ⟨hfront, hbehind⟩) (by simp)
      rw [List.append_nil] at hblank
      rw [trimList, List.nil_append, hblank]
      rfl
  | cons c s =>
      have hleft : trimLeft (front ++ (c :: s ++ behind)) = c :: s ++ behind :=
        trimLeft_gap_append hfront hhead
      rw [trimList, hleft, trimRight_append_gap hbehind hlast]

/-! ## The words of squeezed markup -/

/-- Squeezing leaves the words of a text, with the gaps that belong between them. -/
theorem squeezeList_eq_joinWords (s : List Char) : squeezeList s = joinWords (words s) := by
  have hsplits := splits_words s
  have hwords := hsplits.isWord
  obtain ⟨behind, hbehind, hcollapse⟩ := hsplits.collapse_eq
  have hlead : '>' ∉ lead s := fun hmem => absurd (isGap_lead s _ hmem) (by decide)
  rw [squeezeList, hcollapse, joinTags_append_of_not_mem hlead, joinTags_spaceOut hwords hbehind,
    trimList_of_gaps (isGap_lead s) hbehind (fun _ => isBlank_of_head?_joinWords hwords)
      fun _ => isBlank_of_getLast?_joinWords hwords]

theorem isGap_wordGap (w v : List Char) : IsGap (wordGap w v) := by
  intro c hc
  rw [wordGap] at hc
  split at hc
  · cases hc
  · rw [List.mem_singleton.1 hc]
    rfl

/-- The characters of words with their gaps that are not blank are those of the words. -/
theorem filter_joinWords {ws : List (List Char)} (hws : ∀ w ∈ ws, IsWord w) :
    ((joinWords ws).filter fun c => !isBlank c) = ws.flatten := by
  have hsolid (w : List Char) (hw : IsWord w) : (w.filter fun c => !isBlank c) = w :=
    List.filter_eq_self.2 fun c hc => by simp [hw.solid c hc]
  fun_induction joinWords ws with
  | case1 => rfl
  | case2 w => simpa using hsolid w (hws w List.mem_cons_self)
  | case3 w v ws ih =>
      obtain ⟨hw, hmore⟩ := List.forall_mem_cons.1 hws
      have hgap : ((wordGap w v).filter fun c => !isBlank c) = [] :=
        List.filter_eq_nil_iff.2 fun c hc => by simp [isGap_wordGap w v c hc]
      rw [List.filter_append, List.filter_append, hsolid w hw, hgap, ih hmore, List.append_nil]
      rfl

/-! ## Squeezing twice -/

theorem collapse_wordGap_append (w v : List Char) {c : Char} (hc : isBlank c = false)
    (s : List Char) : collapse (wordGap w v ++ c :: s) = wordGap w v ++ collapse (c :: s) := by
  rw [collapse_append_cons hc, collapse_cons_of_not_isBlank hc, wordGap]
  split <;> rfl

/-- The first pass finds nothing to do on words with their gaps. -/
theorem collapse_joinWords {ws : List (List Char)} (hws : ∀ w ∈ ws, IsWord w) :
    collapse (joinWords ws) = joinWords ws := by
  fun_induction joinWords ws with
  | case1 => rfl
  | case2 w =>
      have hword := collapse_append_of_not_isBlank (hws w List.mem_cons_self).solid []
      simpa [collapse] using hword
  | case3 w v ws ih =>
      obtain ⟨hw, hmore⟩ := List.forall_mem_cons.1 hws
      obtain ⟨more, hform⟩ := exists_joinWords_cons v ws
      obtain ⟨c, v', hv, hc⟩ := (hmore v List.mem_cons_self).exists_cons
      have hrest := ih hmore
      rw [hform, hv, List.cons_append] at hrest ⊢
      rw [List.append_assoc, collapse_append_of_not_isBlank hw.solid,
        collapse_wordGap_append _ _ hc, hrest]

/-- Neither does the second. -/
theorem joinTags_joinWords {ws : List (List Char)} (hws : ∀ w ∈ ws, IsWord w) :
    joinTags (joinWords ws) = joinWords ws := by
  fun_induction joinWords ws with
  | case1 => rfl
  | case2 w => exact joinTags_of_solid (hws w List.mem_cons_self).solid
  | case3 w v ws ih =>
      obtain ⟨hw, hmore⟩ := List.forall_mem_cons.1 hws
      have hv := hmore v List.mem_cons_self
      obtain ⟨more, hform⟩ := exists_joinWords_cons v ws
      have hrest := ih hmore
      rw [hform] at hrest ⊢
      by_cases htags : w.getLast? = some '>' ∧ v.head? = some '<'
      · have hplain : w.getLast? = some '>' → ∀ rest, v ++ more ≠ ' ' :: '<' :: rest := by
          obtain ⟨v, rfl⟩ := List.head?_eq_some_iff.1 htags.2
          simp
        rw [wordGap, if_pos htags, List.append_nil, joinTags_word_append hw.solid hplain, hrest]
      · have hgap : wordGap w v = [' '] := if_neg htags
        have hwords := joinTags_words hw hv more
        rw [hgap, List.append_assoc, List.singleton_append, hwords, hgap, hrest]
        simp

theorem squeezeList_joinWords {ws : List (List Char)} (hws : ∀ w ∈ ws, IsWord w) :
    squeezeList (joinWords ws) = joinWords ws := by
  have htrim : trimList ([] ++ (joinWords ws ++ [])) = joinWords ws :=
    trimList_of_gaps isGap_nil isGap_nil (fun _ => isBlank_of_head?_joinWords hws)
      fun _ => isBlank_of_getLast?_joinWords hws
  rw [List.nil_append, List.append_nil] at htrim
  rw [squeezeList, collapse_joinWords hws, joinTags_joinWords hws, htrim]

theorem toList_squeeze (s : String) : (squeeze s).toList = joinWords (words s.toList) := by
  rw [squeeze, String.toList_ofList, squeezeList_eq_joinWords]

/-- Squeezed markup is the words of the markup, which is the only way to split it, with the
gaps that belong between them: the characters that are not blank stay as they are, markup
with the same words becomes the same, and what is squeezed is not squeezed any further. -/
theorem squeeze_joins_words (s : String) :
    (∀ ws, Splits s.toList ws ↔ ws = words s.toList) ∧
      (squeeze s).toList = joinWords (words s.toList) ∧
      ((squeeze s).toList.filter fun c => !isBlank c) = s.toList.filter (fun c => !isBlank c) ∧
      (∀ t : String, words t.toList = words s.toList → squeeze t = squeeze s) ∧
      squeeze (squeeze s) = squeeze s := by
  have hwords := (splits_words s.toList).isWord
  refine ⟨fun _ => splits_iff, toList_squeeze s, ?_, ?_, ?_⟩
  · rw [toList_squeeze, filter_joinWords hwords, (splits_words s.toList).flatten_eq]
  · intro t ht
    rw [← String.toList_inj, toList_squeeze, toList_squeeze, ht]
  · rw [← String.toList_inj, squeeze, toList_squeeze, squeezeList_joinWords hwords,
      String.toList_ofList]

/-- Words that look like halves of tags, a blank that is no ASCII character, and blanks at
both ends. -/
theorem squeeze_joins_words_of_odd_markup :
    words "\n<a>\u00a0<b> x >\t< /b >\r\n </a> ".toList =
        words "<a> <b> x > < /b > </a>".toList ∧
      squeeze "\n<a>\u00a0<b> x >\t< /b >\r\n </a> " = squeeze "<a> <b> x > < /b > </a>" ∧
      squeeze "<a> <b> x > < /b > </a>" = "<a><b> x >< /b ></a>" := by
  have hsame : words "\n<a>\u00a0<b> x >\t< /b >\r\n </a> ".toList =
      words "<a> <b> x > < /b > </a>".toList := by decide +kernel
  obtain ⟨-, hform, -, heq, -⟩ := squeeze_joins_words "<a> <b> x > < /b > </a>"
  refine ⟨hsame, heq _ hsame, ?_⟩
  rw [← String.toList_inj, hform]
  decide +kernel

end CanvasPress.Text
