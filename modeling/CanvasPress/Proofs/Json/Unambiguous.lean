/-
# Written values can be told apart

The compact text of a value says where the value ends, except that the digits of
a number end only where something else follows.  So two values written in front
of texts that do not go on with a digit are equal when the texts are, and so is
what follows them.  Floating-point numbers are left out: no request holds any.
-/

import CanvasPress.Json.Printer
import Mathlib.Tactic.Common

namespace CanvasPress.Json

/-! ## Strings -/

/-- The digit with a value below sixteen, read back. -/
def hexValue (c : Char) : Nat :=
  if c.isDigit then c.toNat - 48 else c.toNat - 87

/-- The character that stands written in front of a text, and what follows it. -/
def firstWritten : List Char → Option (Char × List Char)
  | '\\' :: '"' :: rest => some ('"', rest)
  | '\\' :: '\\' :: rest => some ('\\', rest)
  | '\\' :: 'b' :: rest => some ('\x08', rest)
  | '\\' :: 'f' :: rest => some ('\x0c', rest)
  | '\\' :: 'n' :: rest => some ('\n', rest)
  | '\\' :: 'r' :: rest => some ('\r', rest)
  | '\\' :: 't' :: rest => some ('\t', rest)
  | '\\' :: 'u' :: '0' :: '0' :: high :: low :: rest =>
    some (Char.ofNat (16 * hexValue high + hexValue low), rest)
  | c :: rest => if c = '"' then none else some (c, rest)
  | [] => none

/-- The two digits of a control give its number back. -/
theorem hexValue_hexDigit {n : Nat} (h : n < 0x20) :
    16 * hexValue (hexDigit (n / 16)) + hexValue (hexDigit (n % 16)) = n := by
  revert n
  decide

/-- A written character is read back, whatever follows it. -/
theorem firstWritten_writeChar (c : Char) (rest : List Char) :
    firstWritten (writeChar c ++ rest) = some (c, rest) := by
  by_cases hquote : c = '"'
  · subst hquote; rfl
  by_cases hslash : c = '\\'
  · subst hslash; rfl
  by_cases hb : c = '\x08'
  · subst hb; rfl
  by_cases hf : c = '\x0c'
  · subst hf; rfl
  by_cases hn : c = '\n'
  · subst hn; rfl
  by_cases hr : c = '\r'
  · subst hr; rfl
  by_cases ht : c = '\t'
  · subst ht; rfl
  rw [writeChar, if_neg hquote, if_neg hslash, if_neg hb, if_neg hf, if_neg hn, if_neg hr,
    if_neg ht]
  by_cases hcontrol : c.toNat < 0x20
  · have hback : Char.ofNat (16 * hexValue (hexDigit (c.toNat / 16)) +
        hexValue (hexDigit (c.toNat % 16))) = c := by
      rw [hexValue_hexDigit hcontrol, Char.ofNat_toNat]
    rw [if_pos hcontrol]
    simp only [List.cons_append, List.nil_append, firstWritten, hback]
  · rw [if_neg hcontrol]
    simp [firstWritten, hquote, hslash]

/-- The inside of a string ends at its closing quote and nowhere else. -/
theorem flatMap_writeChar_inj {cs cs' rest rest' : List Char}
    (h : cs.flatMap writeChar ++ '"' :: rest = cs'.flatMap writeChar ++ '"' :: rest') :
    cs = cs' ∧ rest = rest' := by
  have hquote (rest : List Char) : firstWritten ('"' :: rest) = none := rfl
  induction cs generalizing cs' with
  | nil =>
      cases cs' with
      | nil => exact ⟨rfl, List.cons.inj h |>.2⟩
      | cons c' cs' =>
          have hfirst := congrArg firstWritten h
          simp only [List.flatMap_nil, List.nil_append, List.flatMap_cons, List.append_assoc,
            firstWritten_writeChar, hquote] at hfirst
          cases hfirst
  | cons c cs ih =>
      have hfirst := congrArg firstWritten h
      cases cs' with
      | nil =>
          simp only [List.flatMap_nil, List.nil_append, List.flatMap_cons, List.append_assoc,
            firstWritten_writeChar, hquote] at hfirst
          cases hfirst
      | cons c' cs' =>
          simp only [List.flatMap_cons, List.append_assoc, firstWritten_writeChar,
            Option.some.injEq, Prod.mk.injEq] at hfirst
          obtain ⟨rfl, hrest⟩ := hfirst
          obtain ⟨rfl, hbehind⟩ := ih hrest
          exact ⟨rfl, hbehind⟩

theorem writeText_inj {s s' : String} {rest rest' : List Char}
    (h : writeText s ++ rest = writeText s' ++ rest') : s = s' ∧ rest = rest' := by
  simp only [writeText, List.cons_append, List.append_assoc, List.nil_append,
    List.cons.injEq, true_and] at h
  obtain ⟨hlist, hrest⟩ := flatMap_writeChar_inj h
  exact ⟨String.toList_inj.1 hlist, hrest⟩

/-! ## Numbers -/

/-- The text does not go on with a digit. -/
def EndsNumber (rest : List Char) : Prop :=
  ∀ c ∈ rest.head?, c.isDigit = false

theorem endsNumber_nil : EndsNumber [] := by
  simp [EndsNumber]

theorem endsNumber_cons {c : Char} (h : c.isDigit = false) (rest : List Char) :
    EndsNumber (c :: rest) := by
  simpa [EndsNumber] using h

/-- Digits are read up to where something else follows. -/
theorem takeWhile_toDigits {rest : List Char} (h : EndsNumber rest) (n : Nat) :
    (Nat.toDigits 10 n ++ rest).takeWhile Char.isDigit = Nat.toDigits 10 n := by
  rw [List.takeWhile_append_of_pos fun c hc =>
    Nat.isDigit_of_mem_toDigits (by decide) (by decide) hc]
  cases rest with
  | nil => simp
  | cons c rest => simp [h c rfl]

theorem toDigits_inj {n n' : Nat} {rest rest' : List Char} (hends : EndsNumber rest)
    (hends' : EndsNumber rest') (h : Nat.toDigits 10 n ++ rest = Nat.toDigits 10 n' ++ rest') :
    n = n' ∧ rest = rest' := by
  have hdigits := congrArg (List.takeWhile Char.isDigit) h
  rw [takeWhile_toDigits hends, takeWhile_toDigits hends'] at hdigits
  have hvalue := congrArg (Nat.ofDigitChars 10 · 0) hdigits
  simp only [Nat.ofDigitChars_ten_toDigits] at hvalue
  subst hvalue
  exact ⟨rfl, List.append_cancel_left h⟩

/-- The first character of an integer is its sign or a digit. -/
theorem writeInteger_cases (n : Int) :
    (n < 0 ∧ writeInteger n = '-' :: Nat.toDigits 10 n.natAbs) ∨
      (0 ≤ n ∧ writeInteger n = Nat.toDigits 10 n.natAbs) := by
  unfold writeInteger
  split
  next hneg => exact .inl ⟨hneg, rfl⟩
  next hpos => exact .inr ⟨by omega, rfl⟩

/-- Digits begin with a digit. -/
theorem head?_toDigits (n : Nat) (rest : List Char) :
    ∃ d, d.isDigit = true ∧ (Nat.toDigits 10 n ++ rest).head? = some d := by
  cases hdigits : Nat.toDigits 10 n with
  | nil => exact absurd hdigits Nat.toDigits_ne_nil
  | cons d digits =>
      have hmem : d ∈ Nat.toDigits 10 n := by
        rw [hdigits]
        exact List.mem_cons_self
      have hdigit : d.isDigit = true :=
        Nat.isDigit_of_mem_toDigits (by decide) (by decide) hmem
      exact ⟨d, hdigit, rfl⟩

theorem writeInteger_inj {n n' : Int} {rest rest' : List Char} (hends : EndsNumber rest)
    (hends' : EndsNumber rest') (h : writeInteger n ++ rest = writeInteger n' ++ rest') :
    n = n' ∧ rest = rest' := by
  have hsign : ∀ m rest rest', '-' :: rest ≠ Nat.toDigits 10 m ++ rest' := by
    intro m rest rest' heq
    obtain ⟨d, hdigit, hhead⟩ := head?_toDigits m rest'
    rw [← heq] at hhead
    cases hhead
    exact absurd hdigit (by decide)
  rcases writeInteger_cases n with ⟨hn, hwrite⟩ | ⟨hn, hwrite⟩ <;>
    rcases writeInteger_cases n' with ⟨hn', hwrite'⟩ | ⟨hn', hwrite'⟩ <;>
    rw [hwrite, hwrite'] at h
  · obtain ⟨habs, hrest⟩ := toDigits_inj hends hends' (List.cons.inj h).2
    exact ⟨by omega, hrest⟩
  · exact absurd h (hsign _ _ _)
  · exact absurd h.symm (hsign _ _ _)
  · obtain ⟨habs, hrest⟩ := toDigits_inj hends hends' h
    exact ⟨by omega, hrest⟩

/-! ## Values -/

mutual

/-- No floating-point number is inside. -/
def IsExact : Json → Prop
  | .float _ => False
  | .array items => AreExact items
  | .object members => MembersExact members
  | _ => True

/-- `IsExact` for every item. -/
def AreExact : List Json → Prop
  | [] => True
  | item :: rest => item.IsExact ∧ AreExact rest

/-- `IsExact` for every member's value. -/
def MembersExact : List (String × Json) → Prop
  | [] => True
  | (_, value) :: rest => value.IsExact ∧ MembersExact rest

end

/-- The forms of values, told apart by the first character of their text. -/
inductive Form where
  | null
  | truth
  | falsehood
  | number
  | text
  | array
  | object

/-- The form of values whose text begins with a character. -/
def Form.ofFirst? (c : Char) : Option Form :=
  if c.isDigit || c = '-' then some .number
  else if c = 'n' then some .null
  else if c = 't' then some .truth
  else if c = 'f' then some .falsehood
  else if c = '"' then some .text
  else if c = '[' then some .array
  else if c = '\x7b' then some .object
  else none

/-- The form of a value. -/
def form : Json → Form
  | .null => .null
  | .bool true => .truth
  | .bool false => .falsehood
  | .integer _ => .number
  | .float _ => .number
  | .text _ => .text
  | .array _ => .array
  | .object _ => .object

/-- The first character of a text tells the form of its value. -/
theorem head?_write {v : Json} (h : v.IsExact) (rest : List Char) :
    (v.write ++ rest).head?.bind Form.ofFirst? = some v.form := by
  cases v with
  | null => rfl
  | bool b => cases b <;> rfl
  | integer n =>
      have hwrite : (integer n).write = writeInteger n := rfl
      rw [hwrite]
      rcases writeInteger_cases n with ⟨-, hsigned⟩ | ⟨-, hplain⟩
      · rw [hsigned]
        rfl
      · obtain ⟨d, hdigit, hhead⟩ := head?_toDigits n.natAbs rest
        rw [hplain, hhead, Option.bind_some, Form.ofFirst?, hdigit]
        rfl
  | float x => exact h.elim
  | text s => rfl
  | array items => rfl
  | object members => rfl

/-- No value begins with a bracket that closes. -/
theorem write_append_ne_bracket {v : Json} (h : v.IsExact) (rest rest' : List Char) :
    v.write ++ rest ≠ ']' :: rest' := by
  intro heq
  have hfirst := head?_write h rest
  rw [heq] at hfirst
  cases hfirst

theorem write_array_append (items : List Json) (rest : List Char) :
    (array items).write ++ rest = '[' :: (writeItems items ++ ']' :: rest) := by
  have hwrite : (array items).write = '[' :: (writeItems items ++ [']']) := rfl
  rw [hwrite, List.cons_append, List.append_assoc, List.singleton_append]

theorem write_object_append (members : List (String × Json)) (rest : List Char) :
    (object members).write ++ rest = '\x7b' :: (writeMembers members ++ '\x7d' :: rest) := by
  have hwrite : (object members).write = '\x7b' :: (writeMembers members ++ ['\x7d']) := rfl
  rw [hwrite, List.cons_append, List.append_assoc, List.singleton_append]

/-- The end of an array: its closing bracket, or another item behind a comma. -/
def itemsEnd (items : List Json) (rest : List Char) : List Char :=
  match items with
  | [] => ']' :: rest
  | next :: more => ',' :: writeItems (next :: more) ++ ']' :: rest

theorem writeItems_cons (item : Json) (items : List Json) (rest : List Char) :
    writeItems (item :: items) ++ ']' :: rest = item.write ++ itemsEnd items rest := by
  cases items with
  | nil => rfl
  | cons next more => simp [writeItems, itemsEnd]

/-- The end of an object: its closing brace, or another member behind a comma. -/
def membersEnd (members : List (String × Json)) (rest : List Char) : List Char :=
  match members with
  | [] => '\x7d' :: rest
  | next :: more => ',' :: writeMembers (next :: more) ++ '\x7d' :: rest

theorem writeMembers_cons (key : String) (value : Json) (members : List (String × Json))
    (rest : List Char) :
    writeMembers ((key, value) :: members) ++ '\x7d' :: rest =
      writeText key ++ ':' :: (value.write ++ membersEnd members rest) := by
  cases members with
  | nil => simp [writeMembers, membersEnd]
  | cons next more => simp [writeMembers, membersEnd]

theorem endsNumber_itemsEnd (items : List Json) (rest : List Char) :
    EndsNumber (itemsEnd items rest) := by
  cases items <;> exact endsNumber_cons (by decide) _

theorem endsNumber_membersEnd (members : List (String × Json)) (rest : List Char) :
    EndsNumber (membersEnd members rest) := by
  cases members <;> exact endsNumber_cons (by decide) _

mutual

/-- Equal texts come from equal values with equal texts behind them. -/
theorem write_inj (v v' : Json) {rest rest' : List Char} (hexact : v.IsExact)
    (hexact' : v'.IsExact) (hends : EndsNumber rest) (hends' : EndsNumber rest')
    (h : v.write ++ rest = v'.write ++ rest') : v = v' ∧ rest = rest' := by
  have hform : v.form = v'.form := by
    rw [← Option.some_inj, ← head?_write hexact rest, h, head?_write hexact' rest']
  match v, v' with
  | .null, .null => exact ⟨rfl, List.append_cancel_left h⟩
  | .bool true, .bool true => exact ⟨rfl, List.append_cancel_left h⟩
  | .bool false, .bool false => exact ⟨rfl, List.append_cancel_left h⟩
  | .integer n, .integer n' =>
      obtain ⟨rfl, hrest⟩ := writeInteger_inj hends hends' h
      exact ⟨rfl, hrest⟩
  | .text s, .text s' =>
      obtain ⟨rfl, hrest⟩ := writeText_inj h
      exact ⟨rfl, hrest⟩
  | .array items, .array items' =>
      rw [write_array_append, write_array_append] at h
      obtain ⟨rfl, hrest⟩ := writeItems_inj items items' hexact hexact' (List.cons.inj h).2
      exact ⟨rfl, hrest⟩
  | .object members, .object members' =>
      rw [write_object_append, write_object_append] at h
      obtain ⟨rfl, hrest⟩ := writeMembers_inj members members' hexact hexact' (List.cons.inj h).2
      exact ⟨rfl, hrest⟩

/-- `write_inj` for the items of an array. -/
theorem writeItems_inj (items items' : List Json) {rest rest' : List Char}
    (hexact : AreExact items) (hexact' : AreExact items')
    (h : writeItems items ++ ']' :: rest = writeItems items' ++ ']' :: rest') :
    items = items' ∧ rest = rest' := by
  match items, items' with
  | [], [] => exact ⟨rfl, (List.cons.inj h).2⟩
  | [], item' :: more' =>
      rw [writeItems_cons] at h
      exact absurd h.symm (write_append_ne_bracket hexact'.1 _ _)
  | item :: more, [] =>
      rw [writeItems_cons] at h
      exact absurd h (write_append_ne_bracket hexact.1 _ _)
  | item :: more, item' :: more' =>
      rw [writeItems_cons, writeItems_cons] at h
      obtain ⟨rfl, hend⟩ := write_inj item item' hexact.1 hexact'.1
        (endsNumber_itemsEnd more rest) (endsNumber_itemsEnd more' rest') h
      match more, more' with
      | [], [] => exact ⟨rfl, (List.cons.inj hend).2⟩
      | next :: others, next' :: others' =>
          obtain ⟨hmore, hrest⟩ := writeItems_inj (next :: others) (next' :: others')
            hexact.2 hexact'.2 (List.cons.inj hend).2
          exact ⟨by rw [hmore], hrest⟩

/-- `write_inj` for the members of an object. -/
theorem writeMembers_inj (members members' : List (String × Json)) {rest rest' : List Char}
    (hexact : MembersExact members) (hexact' : MembersExact members')
    (h : writeMembers members ++ '\x7d' :: rest = writeMembers members' ++ '\x7d' :: rest') :
    members = members' ∧ rest = rest' := by
  match members, members' with
  | [], [] => exact ⟨rfl, (List.cons.inj h).2⟩
  | [], (key', value') :: more' =>
      rw [writeMembers_cons] at h
      cases h
  | (key, value) :: more, [] =>
      rw [writeMembers_cons] at h
      cases h
  | (key, value) :: more, (key', value') :: more' =>
      rw [writeMembers_cons, writeMembers_cons] at h
      obtain ⟨rfl, hvalues⟩ := writeText_inj h
      obtain ⟨rfl, hend⟩ := write_inj value value' hexact.1 hexact'.1
        (endsNumber_membersEnd more rest) (endsNumber_membersEnd more' rest')
        (List.cons.inj hvalues).2
      match more, more' with
      | [], [] => exact ⟨rfl, (List.cons.inj hend).2⟩
      | next :: others, next' :: others' =>
          obtain ⟨hmore, hrest⟩ := writeMembers_inj (next :: others) (next' :: others')
            hexact.2 hexact'.2 (List.cons.inj hend).2
          exact ⟨by rw [hmore], hrest⟩

end

/-- Values without floating-point numbers have texts of their own. -/
theorem compact_inj {v v' : Json} (hexact : v.IsExact) (hexact' : v'.IsExact)
    (h : v.compact = v'.compact) : v = v' := by
  have hwritten : v.write ++ [] = v'.write ++ [] := by
    rw [List.append_nil, List.append_nil]
    exact String.ofList_inj.1 h
  exact (write_inj v v' hexact hexact' endsNumber_nil endsNumber_nil hwritten).1

end CanvasPress.Json
