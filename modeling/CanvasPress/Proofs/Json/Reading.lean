/-
# Texts are read as they are laid out

The reader reads every text that lays out a draft as this draft, and stops behind the value.  How
the text is laid out does not matter; so the compact text of a value is read back, which is one
way of laying it out.

What stands behind a value begins with white space, a comma or a bracket that closes, or there is
nothing.  This is what ends a number.
-/

import CanvasPress.Json.Decode
import CanvasPress.Proofs.Json.Layout
import Mathlib.Data.List.DropRight

namespace CanvasPress.Json

/-! ## White space -/

theorem IsBlank.append {gap gap' : List Char} (h : IsBlank gap) (h' : IsBlank gap') :
    IsBlank (gap ++ gap') :=
  List.forall_mem_append.2 ⟨h, h'⟩

theorem IsBlank.isAtEnd {gap : List Char} (h : IsBlank gap) : Draft.isAtEnd gap = true :=
  List.all_eq_true.2 h

theorem IsBlank.skipSpace_append {gap : List Char} (h : IsBlank gap) (rest : List Char) :
    skipSpace (gap ++ rest) = skipSpace rest :=
  List.dropWhile_append_of_pos h

/-- A text that begins with something visible is left as it is. -/
theorem skipSpace_cons {c : Char} (h : isSpace c = false) (rest : List Char) :
    skipSpace (c :: rest) = c :: rest := by
  simp [skipSpace, h]

theorem IsBlank.skipSpace_append_cons {gap : List Char} (h : IsBlank gap) {c : Char}
    (hc : isSpace c = false) (rest : List Char) : skipSpace (gap ++ c :: rest) = c :: rest := by
  rw [h.skipSpace_append, skipSpace_cons hc]

theorem skipSpace_skipSpace (s : List Char) : skipSpace (skipSpace s) = skipSpace s :=
  List.dropWhile_idempotent isSpace s

/-- Where something visible comes, what stands behind is left as it is. -/
theorem skipSpace_append {s more : List Char} {c : Char} (h : skipSpace s = c :: more)
    (rest : List Char) : skipSpace (s ++ rest) = c :: (more ++ rest) := by
  rw [skipSpace] at h ⊢
  rw [List.dropWhile_append, h]
  rfl

/-! ## What stands behind a value -/

/-- A text that may stand behind a value. -/
def Follows (rest : List Char) : Prop :=
  ∀ c ∈ rest.head?, isSpace c = true ∨ c = ',' ∨ c = ']' ∨ c = '\x7d'

theorem follows_nil : Follows [] := by
  simp [Follows]

theorem follows_cons {c : Char} (h : c = ',' ∨ c = ']' ∨ c = '\x7d') (rest : List Char) :
    Follows (c :: rest) := by
  simpa [Follows] using .inr h

theorem IsBlank.follows {gap rest : List Char} (h : IsBlank gap) (hrest : Follows rest) :
    Follows (gap ++ rest) := by
  cases gap with
  | nil => exact hrest
  | cons c gap => simpa [Follows] using Or.inl (h c List.mem_cons_self)

/-- No character that goes on with a number follows it. -/
theorem Follows.ne {c d : Char} {rest : List Char} (h : Follows (c :: rest))
    (hspace : isSpace d = false) (hother : d ≠ ',' ∧ d ≠ ']' ∧ d ≠ '\x7d') : c ≠ d := by
  rintro rfl
  rcases h c rfl with hc | hc | hc | hc
  · rw [hspace] at hc
    cases hc
  · exact hother.1 hc
  · exact hother.2.1 hc
  · exact hother.2.2 hc

theorem Follows.endsNumber {rest : List Char} (h : Follows rest) : EndsNumber rest := by
  intro c hc
  rcases h c hc with hspace | rfl | rfl | rfl
  · simp only [isSpace, Bool.or_eq_true, decide_eq_true_eq] at hspace
    rcases hspace with ((rfl | rfl) | rfl) | rfl <;> decide
  all_goals decide

/-! ## Digits -/

section Digits

variable {digits rest : List Char}

theorem AreDigits.takeWhile_append (h : AreDigits digits) (hrest : EndsNumber rest) :
    (digits ++ rest).takeWhile Char.isDigit = digits := by
  rw [List.takeWhile_append_of_pos h.isDigit]
  cases rest with
  | nil => rw [List.takeWhile_nil, List.append_nil]
  | cons c rest => rw [List.takeWhile_cons_of_neg (by simp [hrest c rfl]), List.append_nil]

theorem AreDigits.dropWhile_append (h : AreDigits digits) (hrest : EndsNumber rest) :
    (digits ++ rest).dropWhile Char.isDigit = rest := by
  rw [List.dropWhile_append_of_pos h.isDigit]
  cases rest with
  | nil => rfl
  | cons c rest => rw [List.dropWhile_cons_of_neg (by simp [hrest c rfl])]

theorem AreDigits.isEmpty_eq_false (h : AreDigits digits) : digits.isEmpty = false :=
  List.isEmpty_eq_false_iff.2 h.ne_nil

/-- Digits begin with a digit. -/
theorem AreDigits.exists_cons (h : AreDigits digits) :
    ∃ d more, digits = d :: more ∧ d.isDigit = true := by
  cases digits with
  | nil => exact absurd rfl h.ne_nil
  | cons d more => exact ⟨d, more, rfl, h.isDigit d List.mem_cons_self⟩

theorem ne_of_isDigit {c d : Char} (hc : c.isDigit = true) (hd : d.isDigit = false) : c ≠ d := by
  rintro rfl
  rw [hd] at hc
  cases hc

/-- A character that a number may begin with. -/
def BeginsNumber (c : Char) : Prop :=
  c = '-' ∨ c.isDigit = true

theorem BeginsNumber.ne {c d : Char} (h : BeginsNumber c) (hminus : d ≠ '-')
    (hd : d.isDigit = false) : c ≠ d := by
  rcases h with rfl | hc
  · exact hminus.symm
  · exact ne_of_isDigit hc hd

theorem BeginsNumber.isSpace_eq_false {c : Char} (h : BeginsNumber c) : isSpace c = false := by
  have hblank : c ≠ ' ' := h.ne (by decide) rfl
  have hline : c ≠ '\n' := h.ne (by decide) rfl
  have htab : c ≠ '\t' := h.ne (by decide) rfl
  have hreturn : c ≠ '\r' := h.ne (by decide) rfl
  simp [isSpace, hblank, hline, htab, hreturn]

theorem LaysNumber.exists_cons {s : List Char} {draft : Draft} (h : LaysNumber s draft) :
    ∃ c more, s = c :: more ∧ BeginsNumber c := by
  have hsigned (negative : Bool) {whole : List Char} (hwhole : IsWhole whole) (t : List Char) :
      ∃ c more, sign negative ++ whole ++ t = c :: more ∧ BeginsNumber c := by
    obtain ⟨d, digits, rfl, hd⟩ := hwhole.exists_cons
    cases negative with
    | true => exact ⟨_, _, rfl, .inl rfl⟩
    | false => exact ⟨_, _, rfl, .inr hd⟩
  cases h with
  | integer negative hwhole =>
      have hfirst := hsigned negative hwhole []
      rwa [List.append_nil] at hfirst
  | decimal negative hwhole _ => exact hsigned negative hwhole _
  | scientific negative hwhole _ _ _ =>
      rw [List.append_assoc]
      exact hsigned negative hwhole _

theorem LaysPlaces.endsNumber_append {s places : List Char} (h : LaysPlaces s places)
    (hrest : EndsNumber rest) : EndsNumber (s ++ rest) := by
  cases h with
  | none => exact hrest
  | some _ => exact endsNumber_cons (by decide) _

end Digits

namespace Reader

/-! ## Strings -/

theorem lacksFourBytes_cons (a b c d : Char) (rest : List Char) :
    lacksFourBytes (a :: b :: c :: d :: rest) = false := by
  have ha := a.utf8Size_pos
  have hb := b.utf8Size_pos
  have hc := c.utf8Size_pos
  have hd := d.utf8Size_pos
  simp only [lacksFourBytes, List.take_succ_cons, List.take_zero, Text.byteLength,
    decide_eq_false_iff_not]
  omega

/-- The pieces of a string are read up to its quote. -/
theorem spell_of_lays {s : List Char} {pieces : List Piece} (h : LaysPieces s pieces)
    (rest : List Char) : spell .plain (s ++ '"' :: rest) = ⟨pieces, none, rest⟩ := by
  induction h with
  | nil => rfl
  | plain hquote hslash hcontrol _ ih =>
      rw [List.cons_append, spell, if_neg hquote, if_neg hslash, if_neg (Nat.not_lt.2 hcontrol), ih]
      rfl
  | @short c d s pieces hshort _ ih =>
      have hu : c ≠ 'u' := by
        rintro rfl
        cases hshort
      rw [List.cons_append, List.cons_append, spell, if_neg (by decide), if_pos rfl, spell,
        if_neg hu, hshort]
      simp only [ih]
      rfl
  | unit ha hb hc hd _ ih =>
      simp [spell, lacksFourBytes_cons, ha, hb, hc, hd, ih, Spelling.cons]

/-- A code unit that is no surrogate is put together by itself. -/
theorem assemble_unit {n : Nat} (h : n < 0xD800 ∨ 0xE000 ≤ n) (cut : Bool) (pieces : List Piece) :
    assemble cut (.unit n :: pieces) = (assemble cut pieces).map (Char.ofNat n :: ·) := by
  have hhigh : ¬ (0xD800 ≤ n ∧ n < 0xDC00) := by omega
  have hany : ¬ (0xD800 ≤ n ∧ n < 0xE000) := by omega
  match pieces with
  | [] => simp only [assemble, ← and_assoc, hhigh, hany, false_and, if_false]
  | .char _ :: _ => simp only [assemble, ← and_assoc, hhigh, hany, false_and, if_false]
  | .unit _ :: _ => simp only [assemble, ← and_assoc, hhigh, hany, false_and, if_false]

theorem assemble_of_standFor {pieces : List Piece} {cs : List Char} (h : StandFor pieces cs) :
    assemble false pieces = some cs := by
  induction h with
  | nil => rfl
  | char c _ ih => rw [assemble, ih]; rfl
  | unit hunit _ ih => rw [assemble_unit hunit, ih]; rfl
  | pair hhigh hlow _ ih =>
      rw [assemble, if_pos ⟨hhigh.1, hhigh.2, hlow.1, hlow.2⟩, ih]
      rfl

theorem standFor_of_assemble {cut : Bool} (hcut : cut = false) {pieces : List Piece}
    {cs : List Char} (h : assemble cut pieces = some cs) : StandFor pieces cs := by
  fun_induction assemble cut pieces generalizing cs with
  | case1 =>
      cases h
      exact .nil
  | case2 c pieces ih =>
      obtain ⟨cs, hcs, rfl⟩ := Option.map_eq_some_iff.1 h
      exact .char c (ih hcs)
  | case3 n m pieces hpair ih =>
      obtain ⟨cs, hcs, rfl⟩ := Option.map_eq_some_iff.1 h
      exact .pair ⟨hpair.1, hpair.2.1⟩ ⟨hpair.2.2.1, hpair.2.2.2⟩ (ih hcs)
  | case4 => cases h
  | case5 n m pieces _ hunit ih =>
      obtain ⟨cs, hcs, rfl⟩ := Option.map_eq_some_iff.1 h
      exact .unit (by omega) (ih hcs)
  | case6 n pieces _ hends =>
      rw [hcut] at hends
      cases hends.2.2.2
  | case7 => cases h
  | case8 n pieces _ _ hunit ih =>
      obtain ⟨cs, hcs, rfl⟩ := Option.map_eq_some_iff.1 h
      exact .unit (by omega) (ih hcs)

/-- A string is read up to its quote. -/
theorem text_of_lays {s : List Char} {found : Option String} (h : LaysString s found)
    (rest : List Char) : text (s ++ '"' :: rest) = (.string found, rest) := by
  cases h with
  | text hlays hstand =>
      simp [text, spell_of_lays hlays, assemble_of_standFor hstand, Draft.string]
  | @lone pieces hlays hlone =>
      have hnone : assemble false pieces = none :=
        Option.eq_none_iff_forall_ne_some.2 fun cs hcs => hlone cs (standFor_of_assemble rfl hcs)
      simp [text, spell_of_lays hlays, hnone, Draft.string]

/-! ## Numbers -/

section Numbers

variable (negative : Bool) {whole places digits rest : List Char}

theorem number_of_isWhole (h : IsWhole digits) (hrest : EndsNumber rest) :
    number negative (digits ++ rest) = fraction negative digits rest := by
  by_cases hzero : digits.head? = some '0'
  · have hnext : (rest.head?.map Char.isDigit).getD false = false := by
      cases rest with
      | nil => rfl
      | cons c rest => exact hrest c rfl
    rw [h.zero hzero, List.singleton_append, number, hnext]
    rfl
  · unfold number
    split
    next more heq =>
      obtain ⟨d, others, rfl, -⟩ := h.exists_cons
      cases heq
      exact absurd rfl hzero
    next =>
      simp only [h.takeWhile_append hrest, h.dropWhile_append hrest, h.isEmpty_eq_false]
      rfl

theorem exponent_of_lays {t : List Char} {e : Int} (h : LaysExponent t e)
    (hrest : EndsNumber rest) (whole places : List Char) :
    exponent negative whole places (t ++ rest) = (double negative whole places e, rest) := by
  cases h with
  | bare hdigits =>
      obtain ⟨d, more, rfl, hd⟩ := hdigits.exists_cons
      have hplus : d ≠ '+' := ne_of_isDigit hd (by decide)
      have hminus : d ≠ '-' := ne_of_isDigit hd (by decide)
      have htake := hdigits.takeWhile_append hrest
      have hdrop := hdigits.dropWhile_append hrest
      rw [List.cons_append] at htake hdrop ⊢
      simp [exponent, hplus, hminus, htake, hdrop]
  | plus hdigits =>
      simp [exponent, hdigits.takeWhile_append hrest, hdigits.dropWhile_append hrest,
        hdigits.isEmpty_eq_false]
  | minus hdigits =>
      simp [exponent, hdigits.takeWhile_append hrest, hdigits.dropWhile_append hrest,
        hdigits.isEmpty_eq_false]

/-- A number without fraction and exponent ends with its digits. -/
theorem fraction_of_follows (h : Follows rest) :
    fraction negative whole rest = (integer negative whole, rest) := by
  cases rest with
  | nil => rfl
  | cons c rest =>
      have hpoint : c ≠ '.' := h.ne rfl (by decide)
      have hsmall : c ≠ 'e' := h.ne rfl (by decide)
      have hlarge : c ≠ 'E' := h.ne rfl (by decide)
      simp [fraction, hpoint, hsmall, hlarge]

theorem fraction_places (hplaces : AreDigits places) (h : Follows rest) :
    fraction negative whole ('.' :: (places ++ rest)) =
      (double negative whole places 0, rest) := by
  simp only [fraction, hplaces.takeWhile_append h.endsNumber,
    hplaces.dropWhile_append h.endsNumber, hplaces.isEmpty_eq_false]
  cases rest with
  | nil => rfl
  | cons c rest =>
      have hsmall : c ≠ 'e' := h.ne rfl (by decide)
      have hlarge : c ≠ 'E' := h.ne rfl (by decide)
      simp [hsmall, hlarge]

theorem fraction_exponent {s t : List Char} {letter : Char} {e : Int} (hs : LaysPlaces s places)
    (hletter : letter = 'e' ∨ letter = 'E') (he : LaysExponent t e) (h : EndsNumber rest) :
    fraction negative whole (s ++ letter :: (t ++ rest)) =
      (double negative whole places e, rest) := by
  have hexponent := exponent_of_lays negative he h whole places
  cases hs with
  | none =>
      rcases hletter with rfl | rfl <;> exact hexponent
  | some hplaces =>
      have hends : EndsNumber (letter :: (t ++ rest)) := by
        apply endsNumber_cons
        rcases hletter with rfl | rfl <;> decide
      simp only [List.cons_append, fraction, hplaces.takeWhile_append hends,
        hplaces.dropWhile_append hends, hplaces.isEmpty_eq_false]
      rcases hletter with rfl | rfl <;> exact hexponent

/-- A minus in front decides the sign, and a digit there is the first one of the number. -/
theorem scalar_sign (h : IsWhole whole) :
    scalar (sign negative ++ (whole ++ rest)) = number negative (whole ++ rest) := by
  cases negative with
  | true => rfl
  | false =>
      obtain ⟨d, more, rfl, hd⟩ := h.exists_cons
      have hn : d ≠ 'n' := ne_of_isDigit hd (by decide)
      have ht : d ≠ 't' := ne_of_isDigit hd (by decide)
      have hf : d ≠ 'f' := ne_of_isDigit hd (by decide)
      have hminus : d ≠ '-' := ne_of_isDigit hd (by decide)
      simp [scalar, sign, hn, ht, hf, hminus, hd]

/-- A number is read up to what follows it. -/
theorem scalar_of_lays {s : List Char} {draft : Draft} (hs : LaysNumber s draft)
    (h : Follows rest) : scalar (s ++ rest) = (draft, rest) := by
  cases hs with
  | integer _ hwhole =>
      rw [List.append_assoc, scalar_sign _ hwhole, number_of_isWhole _ hwhole h.endsNumber,
        fraction_of_follows _ h]
  | decimal _ hwhole hplaces =>
      have hends (t : List Char) : EndsNumber ('.' :: t) := endsNumber_cons (by decide) t
      rw [List.append_assoc, List.append_assoc, scalar_sign _ hwhole, List.cons_append,
        number_of_isWhole _ hwhole (hends _), fraction_places _ hplaces h]
  | @scientific _ whole s places t letter e hwhole hplaces hletter he =>
      have hends : EndsNumber (s ++ letter :: (t ++ rest)) := by
        apply hplaces.endsNumber_append
        apply endsNumber_cons
        rcases hletter with rfl | rfl <;> decide
      rw [List.append_assoc, List.append_assoc, List.append_assoc, scalar_sign _ hwhole,
        List.cons_append, number_of_isWhole _ hwhole hends,
        fraction_exponent _ hplaces hletter he h.endsNumber]

end Numbers

/-! ## Values -/

theorem value_of_scalar {c : Char} {more : List Char} (fuel : Nat) (hspace : isSpace c = false)
    (hquote : c ≠ '"') (hbracket : c ≠ '[') (hbrace : c ≠ '\x7b') :
    value (fuel + 1) (c :: more) = scalar (c :: more) := by
  rw [value, skipSpace_cons hspace]
  split
  next heq => exact absurd (List.cons.inj heq).1 hquote
  next heq => exact absurd (List.cons.inj heq).1 hbracket
  next heq => exact absurd (List.cons.inj heq).1 hbrace
  next => rfl

theorem value_skipSpace (fuel : Nat) (s : List Char) :
    value (fuel + 1) (skipSpace s) = value (fuel + 1) s := by
  rw [value, value, skipSpace_skipSpace]

theorem items_skipSpace (fuel : Nat) (s : List Char) :
    items (fuel + 2) (skipSpace s) = items (fuel + 2) s := by
  rw [items, items, value_skipSpace]

theorem value_of_number {s : List Char} {draft : Draft} (hs : LaysNumber s draft)
    {rest : List Char} (h : Follows rest) (fuel : Nat) :
    value (fuel + 1) (s ++ rest) = (draft, rest) := by
  obtain ⟨c, more, rfl, hc⟩ := hs.exists_cons
  rw [← scalar_of_lays hs h]
  exact value_of_scalar fuel hc.isSpace_eq_false (hc.ne (by decide) rfl) (hc.ne (by decide) rfl)
    (hc.ne (by decide) rfl)

section Step

variable {c : Char} {s tail more rest gap : List Char} {item : Draft} {key : Option String}

theorem value_array (hfirst : skipSpace s = c :: tail) (hbracket : c ≠ ']') (fuel : Nat) :
    value (fuel + 3) ('[' :: s) =
      (.array (items (fuel + 2) s).1 (items (fuel + 2) s).2.1, (items (fuel + 2) s).2.2) := by
  have hopened : skipSpace ('[' :: s) = '[' :: s := skipSpace_cons (by decide) _
  rw [← items_skipSpace, hfirst]
  simp only [value, hopened, hfirst]
  split
  next heq => cases heq
  next heq => exact absurd (List.cons.inj heq).1 hbracket
  next => rfl

theorem value_object (hfirst : skipSpace s = '"' :: tail) (fuel : Nat) :
    value (fuel + 1) ('\x7b' :: s) =
      (.object (members fuel tail).1 (members fuel tail).2.1, (members fuel tail).2.2) := by
  have hopened : skipSpace ('\x7b' :: s) = '\x7b' :: s := skipSpace_cons (by decide) _
  simp only [value, hopened, hfirst]

theorem items_last {fuel : Nat} (hvalue : value fuel s = (item, gap ++ ']' :: rest))
    (hgap : IsBlank gap) : items (fuel + 1) s = ([item], .closed, rest) := by
  simp only [items, hvalue, hgap.skipSpace_append_cons (show isSpace ']' = false from rfl)]

theorem items_next {fuel : Nat} (hvalue : value (fuel + 2) s = (item, gap ++ ',' :: more))
    (hgap : IsBlank gap) (hfirst : skipSpace more = c :: tail) (hbracket : c ≠ ']') :
    items (fuel + 3) s =
      (item :: (items (fuel + 2) more).1, (items (fuel + 2) more).2) := by
  rw [← items_skipSpace fuel more, hfirst, items]
  simp only [hvalue, hgap.skipSpace_append_cons (show isSpace ',' = false from rfl), hfirst]
  split
  next heq => exact absurd (List.cons.inj heq).1 hbracket
  next => rfl

theorem members_last {fuel : Nat} {between : List Char}
    (hkey : text s = (.string key, between ++ ':' :: more)) (hbetween : IsBlank between)
    (hvalue : value fuel more = (item, gap ++ '\x7d' :: rest)) (hgap : IsBlank gap) :
    members (fuel + 1) s = ([(key, item)], .closed, rest) := by
  have hcolon := hbetween.skipSpace_append_cons (show isSpace ':' = false from rfl) more
  have hbrace := hgap.skipSpace_append_cons (show isSpace '\x7d' = false from rfl) rest
  cases key <;> simp only [members, hkey, Draft.string, hcolon, hvalue, hbrace]

theorem members_next {fuel : Nat} {between next : List Char}
    (hkey : text s = (.string key, between ++ ':' :: more)) (hbetween : IsBlank between)
    (hvalue : value fuel more = (item, gap ++ ',' :: rest)) (hgap : IsBlank gap)
    (hfirst : skipSpace rest = '"' :: next) :
    members (fuel + 1) s =
      ((key, item) :: (members fuel next).1, (members fuel next).2.1, (members fuel next).2.2) := by
  have hcolon := hbetween.skipSpace_append_cons (show isSpace ':' = false from rfl) more
  have hcomma := hgap.skipSpace_append_cons (show isSpace ',' = false from rfl) rest
  cases key <;> simp only [members, hkey, Draft.string, hcolon, hvalue, hcomma, hfirst]

end Step

/-! ## Laid out values -/

/-- A key is read up to the white space behind it. -/
theorem exists_text_of_lays {k : List Char} {key : Option String} (h : LaysKey k key) :
    ∃ tail gap, skipSpace k = '"' :: tail ∧ IsBlank gap ∧
      ∀ rest, text (tail ++ rest) = (.string key, gap ++ rest) := by
  cases h with
  | @intro before s after _ hbefore hafter hkey =>
      refine ⟨s ++ '"' :: after, after, hbefore.skipSpace_append_cons rfl _, hafter, fun rest => ?_⟩
      rw [List.append_assoc, List.cons_append]
      exact text_of_lays hkey _

/-- A value begins with something visible other than the bracket that closes an array. -/
theorem exists_first_of_lays : ∀ {s : List Char} {draft : Draft}, Lays s draft →
    ∃ c more, skipSpace s = c :: more ∧ c ≠ ']'
  | _, _, .null => ⟨_, _, rfl, by decide⟩
  | _, _, .true => ⟨_, _, rfl, by decide⟩
  | _, _, .false => ⟨_, _, rfl, by decide⟩
  | _, _, .number hnumber => by
      obtain ⟨c, more, rfl, hc⟩ := hnumber.exists_cons
      exact ⟨c, more, skipSpace_cons hc.isSpace_eq_false more, hc.ne (by decide) rfl⟩
  | _, _, .string _ => ⟨_, _, skipSpace_cons rfl _, by decide⟩
  | _, _, .emptyArray _ => ⟨_, _, skipSpace_cons rfl _, by decide⟩
  | _, _, .array _ => ⟨_, _, skipSpace_cons rfl _, by decide⟩
  | _, _, .emptyObject _ => ⟨_, _, skipSpace_cons rfl _, by decide⟩
  | _, _, .object _ => ⟨_, _, skipSpace_cons rfl _, by decide⟩
  | _, _, .padded hbefore _ hvalue => by
      obtain ⟨c, more, hfirst, hc⟩ := exists_first_of_lays hvalue
      rw [hbefore.skipSpace_append]
      exact ⟨c, _, skipSpace_append hfirst _, hc⟩

theorem exists_first_of_laysItems {s : List Char} {found : List Draft} (h : LaysItems s found) :
    ∃ c more, skipSpace s = c :: more ∧ c ≠ ']' := by
  cases h with
  | last hitem => exact exists_first_of_lays hitem
  | next hitem _ =>
      obtain ⟨c, more, hfirst, hc⟩ := exists_first_of_lays hitem
      exact ⟨c, _, skipSpace_append hfirst _, hc⟩

mutual

/-- Two steps for each character are enough to read a value, up to white space behind it. -/
theorem value_of_lays : ∀ {s : List Char} {draft : Draft}, Lays s draft →
    ∀ {rest : List Char}, Follows rest → ∀ fuel, 2 * s.length < fuel →
      ∃ gap, IsBlank gap ∧ value fuel (s ++ rest) = (draft, gap ++ rest)
  | _, _, .null, _, _, fuel + 1, _ => ⟨[], isBlank_nil, rfl⟩
  | _, _, .true, _, _, fuel + 1, _ => ⟨[], isBlank_nil, rfl⟩
  | _, _, .false, _, _, fuel + 1, _ => ⟨[], isBlank_nil, rfl⟩
  | _, _, .number hnumber, _, h, fuel + 1, _ =>
      ⟨[], isBlank_nil, value_of_number hnumber h fuel⟩
  | _, _, .string hstring, rest, _, fuel + 1, _ => by
      refine ⟨[], isBlank_nil, ?_⟩
      rw [List.cons_append, List.append_assoc, value, skipSpace_cons rfl]
      exact text_of_lays hstring rest
  | _, _, .emptyArray hgap, rest, _, fuel + 1, _ => by
      have hclosed := hgap.skipSpace_append_cons (show isSpace ']' = false from rfl) rest
      refine ⟨[], isBlank_nil, ?_⟩
      rw [List.cons_append, List.append_assoc, value, skipSpace_cons rfl]
      simp only [List.singleton_append, hclosed]
      rfl
  | _, _, .array hitems, rest, _, fuel, hfuel => by
      rw [List.length_cons, List.length_append] at hfuel
      obtain ⟨fuel, rfl⟩ : ∃ k, fuel = k + 3 := ⟨fuel - 3, by omega⟩
      obtain ⟨c, more, hfirst, hc⟩ := exists_first_of_laysItems hitems
      have hread := items_of_lays hitems rest (fuel + 2) (by omega)
      refine ⟨[], isBlank_nil, ?_⟩
      rw [List.cons_append, List.append_assoc, value_array (skipSpace_append hfirst _) hc,
        List.singleton_append, hread]
      rfl
  | _, _, .emptyObject hgap, rest, _, fuel + 1, _ => by
      have hclosed := hgap.skipSpace_append_cons (show isSpace '\x7d' = false from rfl) rest
      refine ⟨[], isBlank_nil, ?_⟩
      rw [List.cons_append, List.append_assoc, value, skipSpace_cons rfl]
      simp only [List.singleton_append, hclosed]
      rfl
  | _, _, .object hmembers, rest, _, fuel + 1, hfuel => by
      rw [List.length_cons, List.length_append] at hfuel
      obtain ⟨tail, hfirst, hread⟩ := members_of_lays hmembers rest fuel (by omega)
      refine ⟨[], isBlank_nil, ?_⟩
      rw [List.cons_append, List.append_assoc, value_object (skipSpace_append hfirst _),
        List.singleton_append, hread]
      rfl
  | _, _, @Lays.padded _ _ after _ hbefore hafter hvalue, rest, h, fuel + 1, hfuel => by
      rw [List.length_append, List.length_append] at hfuel
      obtain ⟨gap, hgap, hread⟩ :=
        value_of_lays hvalue (hafter.follows h) (fuel + 1) (by omega)
      refine ⟨gap ++ after, hgap.append hafter, ?_⟩
      rw [← value_skipSpace, List.append_assoc, List.append_assoc, hbefore.skipSpace_append,
        value_skipSpace, hread, List.append_assoc]

/-- `value_of_lays` for the items of an array. -/
theorem items_of_lays : ∀ {s : List Char} {found : List Draft}, LaysItems s found →
    ∀ (rest : List Char) fuel, 2 * s.length + 1 < fuel →
      items fuel (s ++ ']' :: rest) = (found, .closed, rest)
  | _, _, .last hitem, rest, fuel + 1, hfuel => by
      have hbehind : Follows (']' :: rest) := follows_cons (by decide) rest
      obtain ⟨gap, hgap, hread⟩ := value_of_lays hitem hbehind fuel (by omega)
      exact items_last hread hgap
  | _, _, @LaysItems.next _ more _ _ hitem hmore, rest, fuel, hfuel => by
      rw [List.length_append, List.length_cons] at hfuel
      obtain ⟨fuel, rfl⟩ : ∃ k, fuel = k + 3 := ⟨fuel - 3, by omega⟩
      have hbehind : Follows (',' :: (more ++ ']' :: rest)) := follows_cons (by decide) _
      obtain ⟨c, tail, hfirst, hc⟩ := exists_first_of_laysItems hmore
      obtain ⟨gap, hgap, hread⟩ := value_of_lays hitem hbehind (fuel + 2) (by omega)
      have hothers := items_of_lays hmore rest (fuel + 2) (by omega)
      rw [List.append_assoc, List.cons_append,
        items_next hread hgap (skipSpace_append hfirst _) hc, hothers]

/-- `value_of_lays` for the members of an object, behind the quote of the first key. -/
theorem members_of_lays : ∀ {s : List Char} {found : List (Option String × Draft)},
    LaysMembers s found → ∀ (rest : List Char) fuel, 2 * s.length + 1 < fuel →
      ∃ tail, skipSpace s = '"' :: tail ∧
        members fuel (tail ++ '\x7d' :: rest) = (found, .closed, rest)
  | _, _, @LaysMembers.last _ s _ _ hkey hvalue, rest, fuel + 1, hfuel => by
      rw [List.length_append, List.length_cons] at hfuel
      have hbehind : Follows ('\x7d' :: rest) := follows_cons (by decide) rest
      obtain ⟨tail, between, hfirst, hbetween, htext⟩ := exists_text_of_lays hkey
      obtain ⟨gap, hgap, hread⟩ := value_of_lays hvalue hbehind fuel (by omega)
      refine ⟨tail ++ ':' :: s, skipSpace_append hfirst _, ?_⟩
      rw [List.append_assoc]
      exact members_last (htext _) hbetween hread hgap
  | _, _, @LaysMembers.next _ s more _ _ _ hkey hvalue hmore, rest, fuel + 1, hfuel => by
      rw [List.length_append, List.length_cons, List.length_append, List.length_cons] at hfuel
      have hbehind : Follows (',' :: (more ++ '\x7d' :: rest)) := follows_cons (by decide) _
      obtain ⟨tail, between, hfirst, hbetween, htext⟩ := exists_text_of_lays hkey
      obtain ⟨next, hnext, hothers⟩ := members_of_lays hmore rest fuel (by omega)
      obtain ⟨gap, hgap, hread⟩ := value_of_lays hvalue hbehind fuel (by omega)
      refine ⟨tail ++ ':' :: (s ++ ',' :: more), skipSpace_append hfirst _, ?_⟩
      rw [List.append_assoc, List.cons_append, List.append_assoc, List.cons_append,
        members_next (htext _) hbetween hread hgap (skipSpace_append hnext _), hothers]

end

end Reader

/-! ## Whole texts -/

/-- A text is a draft, laid out in whatever way, and nothing else. -/
def Spells (text : String) (draft : Draft) : Prop :=
  ∃ rest, Draft.read text = (draft, rest) ∧ Draft.isAtEnd rest = true

/-- Whatever a text lays out is read from it. -/
theorem spells_of_lays {text : String} {draft : Draft} (h : Lays text.toList draft) :
    Spells text draft := by
  obtain ⟨gap, hgap, hread⟩ :=
    Reader.value_of_lays h follows_nil (2 * text.toList.length + 2) (by omega)
  rw [List.append_nil, List.append_nil] at hread
  exact ⟨gap, hread, hgap.isAtEnd⟩

/-- A text lays out one draft at most. -/
theorem Lays.unique {s : List Char} {draft other : Draft} (h : Lays s draft)
    (h' : Lays s other) : draft = other := by
  obtain ⟨gap, -, hread⟩ := Reader.value_of_lays h follows_nil _ (Nat.lt_succ_self _)
  obtain ⟨gap', -, hread'⟩ := Reader.value_of_lays h' follows_nil _ (Nat.lt_succ_self _)
  exact congrArg Prod.fst (hread.symm.trans hread')

/-- Decoding depends on the draft that a text spells. -/
theorem decodeText_of_spells {α : Type} (decode : Decoder α) {text : String} {draft : Draft}
    (h : Spells text draft) : decodeText decode text = decode (.text 0) draft := by
  obtain ⟨rest, hread, hend⟩ := h
  rw [decodeText, hread]
  simp only [hend, if_true]
  cases decode (.text 0) draft <;> rfl

theorem spells_compact {v : Json} (h : v.IsPortable) : Spells v.compact (Draft.ofJson v) := by
  apply spells_of_lays
  rw [compact, String.toList_ofList]
  exact lays_write v h

/-- To decode a written text is to decode the draft of the value. -/
theorem decodeText_compact {α : Type} (decode : Decoder α) {v : Json} (h : v.IsPortable) :
    decodeText decode v.compact = decode (.text 0) (Draft.ofJson v) :=
  decodeText_of_spells decode (spells_compact h)

end CanvasPress.Json
