/-
# Texts as they are laid out

A value may be written in many ways: white space stands around every value and every key, a
character of a string is written as it is, by a short escape or by its code units, and a number
may have a fraction and an exponent.  `Lays` is the grammar of all these texts, each with the
draft that it lays out; it says nothing of how a text is read.

No such text is trouble to a reader who skips it.  The compact text of a value is one of them, if
the integers inside have 64 bits; of floating-point numbers that are written nothing is said here.
-/

import CanvasPress.Json.Reader
import CanvasPress.Proofs.Json.Unambiguous
import Mathlib.Algebra.Group.Int.Defs
import Mathlib.Algebra.Group.Nat.Defs

namespace CanvasPress.Json

open Reader

/-! ## The grammar -/

/-- Nothing but white space. -/
def IsBlank (gap : List Char) : Prop :=
  ∀ c ∈ gap, isSpace c = true

/-- The inside of a string, with the characters and code units that it is written in. -/
inductive LaysPieces : List Char → List Piece → Prop where
  | nil : LaysPieces [] []
  | plain {c : Char} {s : List Char} {pieces : List Piece} (hquote : c ≠ '"') (hslash : c ≠ '\\')
      (hcontrol : 0x20 ≤ c.toNat) (rest : LaysPieces s pieces) :
      LaysPieces (c :: s) (.char c :: pieces)
  | short {c d : Char} {s : List Char} {pieces : List Piece} (hshort : shortEscape? c = some d)
      (rest : LaysPieces s pieces) : LaysPieces ('\\' :: c :: s) (.char d :: pieces)
  | unit {a b c d : Char} {p q r t : Nat} {s : List Char} {pieces : List Piece}
      (ha : Text.hexValue? a = some p) (hb : Text.hexValue? b = some q)
      (hc : Text.hexValue? c = some r) (hd : Text.hexValue? d = some t)
      (rest : LaysPieces s pieces) :
      LaysPieces ('\\' :: 'u' :: a :: b :: c :: d :: s)
        (.unit (16 * (16 * (16 * p + q) + r) + t) :: pieces)

/-- The characters that pieces stand for: two surrogates make one character, and any other code
unit makes one by itself. -/
inductive StandFor : List Piece → List Char → Prop where
  | nil : StandFor [] []
  | char (c : Char) {pieces : List Piece} {cs : List Char} (rest : StandFor pieces cs) :
      StandFor (.char c :: pieces) (c :: cs)
  | unit {n : Nat} {pieces : List Piece} {cs : List Char} (hunit : n < 0xD800 ∨ 0xE000 ≤ n)
      (rest : StandFor pieces cs) : StandFor (.unit n :: pieces) (Char.ofNat n :: cs)
  | pair {n m : Nat} {pieces : List Piece} {cs : List Char} (hhigh : 0xD800 ≤ n ∧ n < 0xDC00)
      (hlow : 0xDC00 ≤ m ∧ m < 0xE000) (rest : StandFor pieces cs) :
      StandFor (.unit n :: .unit m :: pieces)
        (Char.ofNat (0x10000 + (n - 0xD800) * 0x400 + (m - 0xDC00)) :: cs)

/-- The inside of a string, with the text that it stands for; there is none if a surrogate is
without its partner. -/
inductive LaysString : List Char → Option String → Prop where
  | text {s cs : List Char} {pieces : List Piece} (hlays : LaysPieces s pieces)
      (hstand : StandFor pieces cs) : LaysString s (some (String.ofList cs))
  | lone {s : List Char} {pieces : List Piece} (hlays : LaysPieces s pieces)
      (hlone : ∀ cs, ¬ StandFor pieces cs) : LaysString s none

/-- The draft of a string. -/
def Draft.string : Option String → Draft
  | some s => .text s
  | none => .unreadable .malformed none

/-- Digits, of which there is one at least. -/
structure AreDigits (digits : List Char) : Prop where
  ne_nil : digits ≠ []
  isDigit : ∀ c ∈ digits, c.isDigit = true

/-- The digits of a whole number: zero is written as one digit, and none other begins with it. -/
structure IsWhole (digits : List Char) : Prop extends AreDigits digits where
  zero : digits.head? = some '0' → digits = ['0']

/-- A sign that is written only if it is negative. -/
def sign (negative : Bool) : List Char :=
  if negative then ['-'] else []

/-- A point and the digits behind it, or neither. -/
inductive LaysPlaces : List Char → List Char → Prop where
  | none : LaysPlaces [] []
  | some {places : List Char} (hplaces : AreDigits places) : LaysPlaces ('.' :: places) places

/-- An exponent behind its letter. -/
inductive LaysExponent : List Char → Int → Prop where
  | bare {digits : List Char} (hdigits : AreDigits digits) :
      LaysExponent digits (digitsValue digits)
  | plus {digits : List Char} (hdigits : AreDigits digits) :
      LaysExponent ('+' :: digits) (digitsValue digits)
  | minus {digits : List Char} (hdigits : AreDigits digits) :
      LaysExponent ('-' :: digits) (-digitsValue digits)

/-- A number with the integer or the double that is nearest to it. -/
inductive LaysNumber : List Char → Draft → Prop where
  | integer (negative : Bool) {whole : List Char} (hwhole : IsWhole whole) :
      LaysNumber (sign negative ++ whole) (Reader.integer negative whole)
  | decimal (negative : Bool) {whole places : List Char} (hwhole : IsWhole whole)
      (hplaces : AreDigits places) :
      LaysNumber (sign negative ++ whole ++ '.' :: places) (double negative whole places 0)
  | scientific (negative : Bool) {whole s places t : List Char} {letter : Char} {e : Int}
      (hwhole : IsWhole whole) (hplaces : LaysPlaces s places)
      (hletter : letter = 'e' ∨ letter = 'E') (he : LaysExponent t e) :
      LaysNumber (sign negative ++ whole ++ s ++ letter :: t) (double negative whole places e)

/-- A key in its quotes, with white space around it. -/
inductive LaysKey : List Char → Option String → Prop where
  | intro {before s after : List Char} {key : Option String} (hbefore : IsBlank before)
      (hafter : IsBlank after) (hkey : LaysString s key) :
      LaysKey (before ++ '"' :: (s ++ '"' :: after)) key

mutual

/-- A text lays out a draft. -/
inductive Lays : List Char → Draft → Prop where
  | null : Lays ['n', 'u', 'l', 'l'] .null
  | true : Lays ['t', 'r', 'u', 'e'] (.bool true)
  | false : Lays ['f', 'a', 'l', 's', 'e'] (.bool false)
  | number {s : List Char} {draft : Draft} (hnumber : LaysNumber s draft) : Lays s draft
  | string {s : List Char} {text : Option String} (hstring : LaysString s text) :
      Lays ('"' :: (s ++ ['"'])) (.string text)
  | emptyArray {gap : List Char} (hgap : IsBlank gap) :
      Lays ('[' :: (gap ++ [']'])) (.array [] .closed)
  | array {s : List Char} {items : List Draft} (hitems : LaysItems s items) :
      Lays ('[' :: (s ++ [']'])) (.array items .closed)
  | emptyObject {gap : List Char} (hgap : IsBlank gap) :
      Lays ('\x7b' :: (gap ++ ['\x7d'])) (.object [] .closed)
  | object {s : List Char} {members : List (Option String × Draft)}
      (hmembers : LaysMembers s members) :
      Lays ('\x7b' :: (s ++ ['\x7d'])) (.object members .closed)
  /-- White space stands around a value. -/
  | padded {before s after : List Char} {draft : Draft} (hbefore : IsBlank before)
      (hafter : IsBlank after) (hvalue : Lays s draft) : Lays (before ++ (s ++ after)) draft

/-- A text lays out the items of an array, between the brackets. -/
inductive LaysItems : List Char → List Draft → Prop where
  | last {s : List Char} {item : Draft} (hitem : Lays s item) : LaysItems s [item]
  | next {s more : List Char} {item : Draft} {items : List Draft} (hitem : Lays s item)
      (hmore : LaysItems more items) : LaysItems (s ++ ',' :: more) (item :: items)

/-- A text lays out the members of an object, between the brackets. -/
inductive LaysMembers : List Char → List (Option String × Draft) → Prop where
  | last {k s : List Char} {key : Option String} {value : Draft} (hkey : LaysKey k key)
      (hvalue : Lays s value) : LaysMembers (k ++ ':' :: s) [(key, value)]
  | next {k s more : List Char} {key : Option String} {value : Draft}
      {members : List (Option String × Draft)} (hkey : LaysKey k key) (hvalue : Lays s value)
      (hmore : LaysMembers more members) :
      LaysMembers (k ++ ':' :: (s ++ ',' :: more)) ((key, value) :: members)

end

theorem isBlank_nil : IsBlank [] := by
  simp [IsBlank]

/-! ## Values that are skipped -/

theorem skip_double (negative : Bool) (whole places : List Char) (e : Int) :
    (double negative whole places e).skip = .ok () := by
  simp only [double]
  split <;> rfl

theorem skip_integer (negative : Bool) (digits : List Char) :
    (Reader.integer negative digits).skip = .ok () := by
  simp only [Reader.integer]
  split_ifs
  · rfl
  · exact skip_double true digits [] 0
  · rfl
  · exact skip_double false digits [] 0

mutual

/-- No text that lays out a value is trouble to a reader who skips it. -/
theorem Lays.skip : ∀ {s : List Char} {draft : Draft}, Lays s draft → draft.skip = .ok ()
  | _, _, .null => rfl
  | _, _, .true => rfl
  | _, _, .false => rfl
  | _, _, .number (.integer negative _) => skip_integer negative _
  | _, _, .number (.decimal negative _ _) => skip_double negative _ _ _
  | _, _, .number (.scientific negative _ _ _ _) => skip_double negative _ _ _
  | _, _, .string (.text _ _) => rfl
  | _, _, .string (.lone _ _) => rfl
  | _, _, .emptyArray _ => rfl
  | _, _, .array hitems => by
      rw [Draft.skip, hitems.skip]
      rfl
  | _, _, .emptyObject _ => rfl
  | _, _, .object hmembers => by
      rw [Draft.skip, hmembers.skip]
      rfl
  | _, _, .padded _ _ hvalue => hvalue.skip

/-- `Lays.skip` for the items of an array. -/
theorem LaysItems.skip : ∀ {s : List Char} {found : List Draft}, LaysItems s found →
    Draft.skipItems found = .ok ()
  | _, _, .last hitem => by
      rw [Draft.skipItems, hitem.skip]
      rfl
  | _, _, .next hitem hmore => by
      rw [Draft.skipItems, hitem.skip]
      exact hmore.skip

/-- `Lays.skip` for the members of an object. -/
theorem LaysMembers.skip : ∀ {s : List Char} {found : List (Option String × Draft)},
    LaysMembers s found → Draft.skipMembers found = .ok ()
  | _, _, .last _ hvalue => by
      rw [Draft.skipMembers, hvalue.skip]
      rfl
  | _, _, .next _ hvalue hmore => by
      rw [Draft.skipMembers, hvalue.skip]
      exact hmore.skip

end

/-! ## Values that are written and read back -/

/-- The integers that are read exactly. -/
def IsWord (n : Int) : Prop :=
  -(2 ^ 63) ≤ n ∧ n < 2 ^ 64

mutual

/-- No floating-point number is inside, and integers have 64 bits. -/
def IsPortable : Json → Prop
  | .integer n => IsWord n
  | .float _ => False
  | .array items => ArePortable items
  | .object members => MembersPortable members
  | _ => True

/-- `IsPortable` for every item. -/
def ArePortable : List Json → Prop
  | [] => True
  | item :: rest => item.IsPortable ∧ ArePortable rest

/-- `IsPortable` for every member's value. -/
def MembersPortable : List (String × Json) → Prop
  | [] => True
  | (_, value) :: rest => value.IsPortable ∧ MembersPortable rest

end

theorem arePortable_of_forall {items : List Json} (h : ∀ item ∈ items, item.IsPortable) :
    ArePortable items := by
  induction items with
  | nil => trivial
  | cons item rest ih =>
      exact ⟨h item List.mem_cons_self, ih fun other hmem => h other (List.mem_cons_of_mem _ hmem)⟩

theorem membersPortable_of_forall {members : List (String × Json)}
    (h : ∀ m ∈ members, m.2.IsPortable) : MembersPortable members := by
  induction members with
  | nil => trivial
  | cons m rest ih =>
      exact ⟨h m List.mem_cons_self, ih fun other hmem => h other (List.mem_cons_of_mem _ hmem)⟩

theorem arePortable_texts (texts : List String) : ArePortable (texts.map .text) := by
  apply arePortable_of_forall
  intro item hitem
  obtain ⟨s, -, rfl⟩ := List.mem_map.1 hitem
  trivial

theorem isPortable_natural {n : Nat} (h : n < 2 ^ 64) : (natural n).IsPortable := by
  change IsWord n
  unfold IsWord
  omega

theorem isPortable_optionalText (value : Option String) : (optionalText value).IsPortable := by
  cases value <;> trivial

theorem isPortable_optionalNatural {value : Option Nat} (h : ∀ n ∈ value, n < 2 ^ 64) :
    (optionalNatural value).IsPortable := by
  cases value with
  | none => trivial
  | some n => exact isPortable_natural (h n rfl)

/-! ## Written values are laid out -/

theorem hexValue?_hexDigit {n : Nat} (h : n < 16) : Text.hexValue? (hexDigit n) = some n := by
  revert n
  decide

/-- A character is written in front of others. -/
theorem exists_laysPieces_writeChar (c : Char) {s cs : List Char} {pieces : List Piece}
    (hlays : LaysPieces s pieces) (hstand : StandFor pieces cs) :
    ∃ more, LaysPieces (writeChar c ++ s) more ∧ StandFor more (c :: cs) := by
  by_cases hquote : c = '"'
  · subst hquote; exact ⟨_, .short rfl hlays, .char _ hstand⟩
  by_cases hslash : c = '\\'
  · subst hslash; exact ⟨_, .short rfl hlays, .char _ hstand⟩
  by_cases hb : c = '\x08'
  · subst hb; exact ⟨_, .short rfl hlays, .char _ hstand⟩
  by_cases hf : c = '\x0c'
  · subst hf; exact ⟨_, .short rfl hlays, .char _ hstand⟩
  by_cases hn : c = '\n'
  · subst hn; exact ⟨_, .short rfl hlays, .char _ hstand⟩
  by_cases hr : c = '\r'
  · subst hr; exact ⟨_, .short rfl hlays, .char _ hstand⟩
  by_cases ht : c = '\t'
  · subst ht; exact ⟨_, .short rfl hlays, .char _ hstand⟩
  rw [writeChar, if_neg hquote, if_neg hslash, if_neg hb, if_neg hf, if_neg hn, if_neg hr,
    if_neg ht]
  by_cases hcontrol : c.toNat < 0x20
  · have hzero : Text.hexValue? '0' = some 0 := by decide
    have hhigh := hexValue?_hexDigit (show c.toNat / 16 < 16 by omega)
    have hlow := hexValue?_hexDigit (show c.toNat % 16 < 16 by omega)
    have hvalue : 16 * (16 * (16 * 0 + 0) + c.toNat / 16) + c.toNat % 16 = c.toNat := by omega
    have hpieces := LaysPieces.unit hzero hzero hhigh hlow hlays
    rw [hvalue] at hpieces
    have hunit := StandFor.unit (.inl (show c.toNat < 0xD800 by omega)) hstand
    rw [Char.ofNat_toNat] at hunit
    rw [if_pos hcontrol]
    exact ⟨_, hpieces, hunit⟩
  · rw [if_neg hcontrol]
    exact ⟨_, .plain hquote hslash (Nat.not_lt.1 hcontrol) hlays, .char c hstand⟩

theorem laysString_writeChar (s : String) :
    LaysString (s.toList.flatMap writeChar) (some s) := by
  have hall (cs : List Char) :
      ∃ pieces, LaysPieces (cs.flatMap writeChar) pieces ∧ StandFor pieces cs := by
    induction cs with
    | nil => exact ⟨[], .nil, .nil⟩
    | cons c cs ih =>
        obtain ⟨pieces, hlays, hstand⟩ := ih
        exact exists_laysPieces_writeChar c hlays hstand
  obtain ⟨pieces, hlays, hstand⟩ := hall s.toList
  have htext := LaysString.text hlays hstand
  rwa [String.ofList_toList] at htext

theorem laysKey_writeText (key : String) : LaysKey (writeText key) (some key) :=
  .intro isBlank_nil isBlank_nil (laysString_writeChar key)

theorem digitsValue_toDigits (n : Nat) : digitsValue (Nat.toDigits 10 n) = n :=
  Nat.ofDigitChars_ten_toDigits

/-- No positive number is written with a zero in front. -/
theorem head?_toDigits_ne_zero {n : Nat} (h : 0 < n) : (Nat.toDigits 10 n).head? ≠ some '0' := by
  induction n using Nat.strongRecOn with
  | ind n ih =>
      by_cases hsmall : n < 10
      · have hdigit : ∀ m < 10, 0 < m → [m.digitChar].head? ≠ some '0' := by decide
        rw [Nat.toDigits_of_lt_base hsmall]
        exact hdigit n hsmall h
      · have hbase : 10 ≤ n := Nat.not_lt.1 hsmall
        have hshorter := ih (n / 10) (by omega) (by omega)
        rw [Nat.toDigits_of_base_le (by decide) hbase, List.head?_append]
        cases hdigits : (Nat.toDigits 10 (n / 10)).head? with
        | none => exact absurd (List.head?_eq_none_iff.1 hdigits) Nat.toDigits_ne_nil
        | some d =>
            rw [hdigits] at hshorter
            exact hshorter

theorem integer_natAbs {n : Int} (h : IsWord n) :
    Reader.integer (n < 0) (Nat.toDigits 10 n.natAbs) = .integer n := by
  obtain ⟨hlow, hhigh⟩ := h
  have htop : twoTo 64 = 2 ^ 64 := rfl
  have hhalf : twoTo 63 = 2 ^ 63 := rfl
  unfold Reader.integer
  rw [digitsValue_toDigits, htop, hhalf]
  by_cases hneg : n < 0
  · have hrange : 0 < n.natAbs ∧ n.natAbs ≤ 2 ^ 63 := by omega
    have hback : -(n.natAbs : Int) = n := by omega
    simp only [hneg, decide_true, if_true, if_pos hrange, hback]
  · have hrange : n.natAbs < 2 ^ 64 := by omega
    have hback : (n.natAbs : Int) = n := by omega
    simp only [hneg, decide_false, Bool.false_eq_true, if_false, if_pos hrange, hback]

theorem isWhole_toDigits (n : Nat) : IsWhole (Nat.toDigits 10 n) where
  ne_nil := Nat.toDigits_ne_nil
  isDigit := fun _ hc => Nat.isDigit_of_mem_toDigits (by decide) (by decide) hc
  zero := by
    intro hhead
    rcases Nat.eq_zero_or_pos n with rfl | hpos
    · rfl
    · exact absurd hhead (head?_toDigits_ne_zero hpos)

theorem laysNumber_writeInteger {n : Int} (h : IsWord n) :
    LaysNumber (writeInteger n) (.integer n) := by
  have hsign : writeInteger n = sign (n < 0) ++ Nat.toDigits 10 n.natAbs := by
    rcases writeInteger_cases n with ⟨hneg, hwrite⟩ | ⟨hpos, hwrite⟩
    · simp [hwrite, sign, hneg]
    · simp [hwrite, sign, Int.not_lt.2 hpos]
  rw [hsign, ← integer_natAbs h]
  exact .integer _ (isWhole_toDigits _)

mutual

/-- A written value is laid out. -/
theorem lays_write (v : Json) (hv : v.IsPortable) : Lays v.write (Draft.ofJson v) := by
  match v with
  | .null => exact .null
  | .bool true => exact .true
  | .bool false => exact .false
  | .integer n => exact .number (laysNumber_writeInteger hv)
  | .float x => exact hv.elim
  | .text s => exact .string (laysString_writeChar s)
  | .array [] => exact .emptyArray isBlank_nil
  | .array (item :: more) =>
      exact .array (laysItems_write (item :: more) hv (List.cons_ne_nil _ _))
  | .object [] => exact .emptyObject isBlank_nil
  | .object (member :: more) =>
      exact .object (laysMembers_write (member :: more) hv (List.cons_ne_nil _ _))

/-- `lays_write` for the items of an array, if there are any. -/
theorem laysItems_write (found : List Json) (hfound : ArePortable found) (hsome : found ≠ []) :
    LaysItems (writeItems found) (Draft.ofItems found) := by
  match found with
  | [] => exact absurd rfl hsome
  | [item] => exact .last (lays_write item hfound.1)
  | item :: next :: others =>
      have hothers := laysItems_write (next :: others) hfound.2 (List.cons_ne_nil _ _)
      exact .next (lays_write item hfound.1) hothers

/-- `lays_write` for the members of an object, if there are any. -/
theorem laysMembers_write (found : List (String × Json)) (hfound : MembersPortable found)
    (hsome : found ≠ []) : LaysMembers (writeMembers found) (Draft.ofMembers found) := by
  match found with
  | [] => exact absurd rfl hsome
  | [(key, held)] => exact .last (laysKey_writeText key) (lays_write held hfound.1)
  | (key, held) :: next :: others =>
      have hothers := laysMembers_write (next :: others) hfound.2 (List.cons_ne_nil _ _)
      rw [writeMembers, List.append_assoc, List.cons_append]
      exact .next (laysKey_writeText key) (lays_write held hfound.1) hothers

end

end CanvasPress.Json
