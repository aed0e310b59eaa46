/-
# Safe texts

A text is safe in markup if it has no bare bracket or quote and every ampersand in it starts an
entity.  Escaped texts are safe, and no others are: a safe text falls into the written forms of
single characters, one after another, and `unescape` reads these off.  Nothing counts as escaped
already, so escaping twice writes every ampersand of the escaped text as an entity again.
-/

import CanvasPress.Proofs.Text.Escape
import Mathlib.Data.List.Basic
import Mathlib.Data.Set.Operations

namespace CanvasPress.Text

/-- Replace the entities of a string, from left to right, by what they stand for. -/
def unescape (s : String) : String :=
  String.ofList (unescapeList s.toList)

theorem toList_unescape (s : String) : (unescape s).toList = unescapeList s.toList :=
  String.toList_ofList

theorem isMarkup_eq_false_iff {c : Char} :
    isMarkup c = false ↔ c ≠ '<' ∧ c ≠ '>' ∧ c ≠ '"' ∧ c ≠ '\'' := by
  simp [isMarkup, and_assoc]

/-- A character that is neither markup nor an ampersand is written as it is. -/
theorem escapeChar_of_plain {c : Char} (hamp : c ≠ '&') (hmarkup : isMarkup c = false) :
    escapeChar c = [c] := by
  obtain ⟨hlt, hgt, hquote, hapostrophe⟩ := isMarkup_eq_false_iff.1 hmarkup
  rw [escapeChar, if_neg hamp, if_neg hlt, if_neg hgt, if_neg hquote, if_neg hapostrophe]

theorem escapeChar_ne_nil (c : Char) : escapeChar c ≠ [] := by
  rcases escapeChar_cases c with ⟨hentity, -⟩ | ⟨-, -, hform⟩
  · exact (entity_plain _ hentity).1
  · rw [hform]
    exact List.cons_ne_nil c []

/-! ## Reading a safe text from the left -/

theorem isSafe_nil : IsSafe [] := by
  refine ⟨nofun, fun before behind h => ?_⟩
  simp at h

/-- Whether a text is safe is told from its first character, what begins there, and the rest. -/
theorem isSafe_cons_iff {c : Char} {rest : List Char} :
    IsSafe (c :: rest) ↔ isMarkup c = false ∧
      (c = '&' → ∃ entity ∈ entities, entity.isPrefixOf (c :: rest)) ∧ IsSafe rest := by
  constructor
  · rintro ⟨hplain, hentity⟩
    refine ⟨isMarkup_eq_false_iff.2 (hplain c List.mem_cons_self), ?_, ?_, ?_⟩
    · rintro rfl
      exact hentity [] rest rfl
    · intro d hd
      exact hplain d (List.mem_cons_of_mem _ hd)
    · intro before behind h
      exact hentity (c :: before) behind (by rw [h, List.cons_append])
  · rintro ⟨hfirst, hentity, hplain, hrest⟩
    refine ⟨List.forall_mem_cons.2 ⟨isMarkup_eq_false_iff.1 hfirst, hplain⟩, ?_⟩
    intro before behind h
    rw [List.cons_eq_append_iff] at h
    rcases h with ⟨rfl, h⟩ | ⟨before, rfl, h⟩
    · obtain ⟨rfl, rfl⟩ := List.cons.inj h
      exact hentity rfl
    · exact hrest before behind h

/-- Characters that are written as they are may stand in front of a safe text. -/
theorem isSafe_append {s t : List Char} (hplain : ∀ c ∈ s, c ≠ '&' ∧ isMarkup c = false)
    (ht : IsSafe t) : IsSafe (s ++ t) := by
  induction s with
  | nil => exact ht
  | cons c s ih =>
      obtain ⟨⟨hamp, hmarkup⟩, hrest⟩ := List.forall_mem_cons.1 hplain
      exact isSafe_cons_iff.2 ⟨hmarkup, fun h => absurd h hamp, ih hrest⟩

/-- An entity begins with its only ampersand. -/
theorem exists_eq_cons_of_mem_entities {entity : List Char} (h : entity ∈ entities) :
    ∃ name, entity = '&' :: name ∧ ∀ c ∈ name, c ≠ '&' ∧ isMarkup c = false := by
  have hplain {name : List Char} (hall : name.all (fun c => c ≠ '&' && !isMarkup c) = true) :
      ∀ c ∈ name, c ≠ '&' ∧ isMarkup c = false := by
    simpa using hall
  simp only [entities, List.mem_cons, List.not_mem_nil, or_false] at h
  rcases h with rfl | rfl | rfl | rfl | rfl <;> exact ⟨_, rfl, hplain (by decide)⟩

/-- Every entity is the written form of a character. -/
theorem exists_escapeChar_eq_of_mem_entities {entity : List Char} (h : entity ∈ entities) :
    ∃ c, escapeChar c = entity := by
  simp only [entities, List.mem_cons, List.not_mem_nil, or_false] at h
  rcases h with rfl | rfl | rfl | rfl | rfl
  exacts [⟨'&', rfl⟩, ⟨'<', rfl⟩, ⟨'>', rfl⟩, ⟨'"', rfl⟩, ⟨'\'', rfl⟩]

theorem isSafe_of_append {s t : List Char} (h : IsSafe (s ++ t)) : IsSafe t := by
  induction s with
  | nil => exact h
  | cons c s ih => exact ih (isSafe_cons_iff.1 h).2.2

/-! ## The safe texts are the escaped ones -/

theorem isSafe_escapeChar_append (c : Char) {s : List Char} (h : IsSafe s) :
    IsSafe (escapeChar c ++ s) := by
  rcases escapeChar_cases c with ⟨hentity, -⟩ | ⟨hamp, hmarkup, hform⟩
  · obtain ⟨name, hname, hplain⟩ := exists_eq_cons_of_mem_entities hentity
    have hmark : isMarkup '&' = false := by decide
    have hbegins : (escapeChar c).isPrefixOf ('&' :: (name ++ s)) = true := by
      rw [hname, List.isPrefixOf_iff_prefix]
      exact List.prefix_append ('&' :: name) s
    rw [hname, List.cons_append]
    exact isSafe_cons_iff.2 ⟨hmark, fun _ => ⟨_, hentity, hbegins⟩, isSafe_append hplain h⟩
  · rw [hform]
    exact isSafe_append (by simp [hamp, hmarkup]) h

theorem isSafe_escapeList (s : List Char) : IsSafe (escapeList s) := by
  induction s with
  | nil => exact isSafe_nil
  | cons c s ih =>
      rw [escapeList_cons]
      exact isSafe_escapeChar_append c ih

/-- A safe text begins with the written form of a character. -/
theorem IsSafe.exists_escapeChar_append {t : List Char} (h : IsSafe t) (hne : t ≠ []) :
    ∃ c rest, t = escapeChar c ++ rest := by
  cases t with
  | nil => exact absurd rfl hne
  | cons c rest =>
      obtain ⟨hmarkup, hentity, -⟩ := isSafe_cons_iff.1 h
      by_cases hamp : c = '&'
      · obtain ⟨entity, hmem, hbegins⟩ := hentity hamp
        obtain ⟨d, rfl⟩ := exists_escapeChar_eq_of_mem_entities hmem
        obtain ⟨behind, hbehind⟩ := List.isPrefixOf_iff_prefix.1 hbegins
        exact ⟨d, behind, hbehind.symm⟩
      · refine ⟨c, rest, ?_⟩
        rw [escapeChar_of_plain hamp hmarkup, List.singleton_append]

/-- A safe text is escaped text.  The induction is on its length, because what stands behind the
first written form is shorter. -/
theorem IsSafe.exists_eq_escapeList {t : List Char} (h : IsSafe t) : ∃ s, escapeList s = t := by
  by_cases hne : t = []
  · exact ⟨[], hne.symm⟩
  · obtain ⟨c, rest, rfl⟩ := h.exists_escapeChar_append hne
    have hshorter : rest.length < (escapeChar c ++ rest).length := by
      have hform := List.length_pos_iff.2 (escapeChar_ne_nil c)
      rw [List.length_append]
      omega
    obtain ⟨s, hs⟩ := (isSafe_of_append h).exists_eq_escapeList
    exact ⟨c :: s, by rw [escapeList_cons, hs]⟩
termination_by t.length

theorem escapeList_unescapeList_iff {t : List Char} :
    escapeList (unescapeList t) = t ↔ IsSafe t := by
  constructor
  · intro h
    rw [← h]
    exact isSafe_escapeList _
  · intro h
    obtain ⟨s, rfl⟩ := h.exists_eq_escapeList
    rw [unescapeList_escapeList]

/-! ## Escaping twice -/

theorem length_le_length_escapeList (s : List Char) : s.length ≤ (escapeList s).length := by
  induction s with
  | nil => exact Nat.zero_le _
  | cons c s ih =>
      have hform := List.length_pos_iff.2 (escapeChar_ne_nil c)
      rw [escapeList_cons, List.length_append, List.length_cons]
      omega

/-- A text is left as it is just if nothing in it needs an entity. -/
theorem escapeList_eq_self_iff {s : List Char} :
    escapeList s = s ↔ ∀ c ∈ s, c ≠ '&' ∧ isMarkup c = false := by
  induction s with
  | nil => exact ⟨fun _ => nofun, fun _ => rfl⟩
  | cons c s ih =>
      rw [List.forall_mem_cons, ← ih, escapeList_cons]
      rcases escapeChar_cases c with ⟨hentity, -⟩ | ⟨hamp, hmarkup, hform⟩
      · -- An entity takes more room than its character, and no later room is saved.
        have hlonger : ∀ entity ∈ entities, 1 < entity.length := by decide
        have hform := hlonger _ hentity
        have hrest := length_le_length_escapeList s
        constructor
        · intro h
          have hlength := congrArg List.length h
          rw [List.length_append, List.length_cons] at hlength
          omega
        · rintro ⟨⟨hamp, hmarkup⟩, -⟩
          rw [escapeChar_of_plain hamp hmarkup] at hform
          exact absurd hform (Nat.lt_irrefl 1)
      · rw [hform, List.singleton_append, List.cons_inj_right]
        exact ⟨fun h => ⟨⟨hamp, hmarkup⟩, h⟩, fun h => h.2⟩

/-- In a text without markup, escaping writes the ampersands anew and nothing else. -/
theorem escapeList_of_forall {s : List Char} (h : ∀ c ∈ s, isMarkup c = false) :
    escapeList s = s.flatMap fun c => if c = '&' then "&amp;".toList else [c] := by
  refine List.flatMap_congr fun c hc => ?_
  by_cases hamp : c = '&'
  · rw [escapeChar, if_pos hamp, if_pos hamp]
  · rw [escapeChar_of_plain hamp (h c hc), if_neg hamp]

theorem escape_injective : Function.Injective escape := by
  intro s s' h
  have hlists := congrArg String.toList h
  rw [toList_escape, toList_escape] at hlists
  exact String.toList_inj.1 (escapeList_injective hlists)

theorem escape_eq_self_iff {s : String} :
    escape s = s ↔ ∀ c ∈ s.toList, c ≠ '&' ∧ isMarkup c = false := by
  rw [← escapeList_eq_self_iff, ← String.toList_inj, toList_escape]

/-! ## The theorem -/

/-- **Escaping can be undone, and it produces exactly the safe texts.**

* Escaped text is safe: no bare bracket or quote is in it, and every ampersand starts an entity.
  Replacing the entities from left to right gives the text back.
* Conversely a text is safe just if it is what its own decoding is escaped to, and so just if it
  is escaped text at all.
* Different texts are escaped differently.
* Text that is escaped already is escaped again: each of its ampersands is written as an entity.
  This changes nothing only where the first escaping has changed nothing, because there was none
  of the five characters. -/
theorem escaping_is_exact :
    (∀ s : String, IsSafe (escape s).toList ∧ unescape (escape s) = s) ∧
      (∀ t : String, IsSafe t.toList ↔ escape (unescape t) = t) ∧
      (∀ t : String, IsSafe t.toList ↔ t ∈ Set.range escape) ∧
      Function.Injective escape ∧
      ∀ s : String,
        (escape (escape s)).toList =
            (escape s).toList.flatMap (fun c => if c = '&' then "&amp;".toList else [c]) ∧
          (escape (escape s) = escape s ↔ ∀ c ∈ s.toList, c ≠ '&' ∧ isMarkup c = false) := by
  have hundone (s : String) : unescape (escape s) = s := by
    rw [unescape, toList_escape, unescapeList_escapeList, String.ofList_toList]
  have hsafe (s : String) : IsSafe (escape s).toList := by
    rw [toList_escape]
    exact isSafe_escapeList _
  have hback (t : String) : IsSafe t.toList ↔ escape (unescape t) = t := by
    rw [← escapeList_unescapeList_iff, ← String.toList_inj, toList_escape, toList_unescape]
  refine ⟨fun s => ⟨hsafe s, hundone s⟩, hback, fun t => ⟨?_, ?_⟩, escape_injective,
    fun s => ⟨?_, ?_⟩⟩
  · intro h
    exact ⟨unescape t, (hback t).1 h⟩
  · rintro ⟨s, rfl⟩
    exact hsafe s
  · rw [toList_escape (escape s)]
    refine escapeList_of_forall fun c hc => ?_
    rw [toList_escape] at hc
    exact isMarkup_of_mem_escapeList hc
  · rw [escape_injective.eq_iff, escape_eq_self_iff]

/-- Texts that look escaped: the entity of an entity is decoded once, and an ampersand alone and
an entity without its end are not safe. -/
theorem escaping_is_exact_of_lookalikes :
    (IsSafe "&amp;lt;".toList ∧ unescape "&amp;lt;" = "&lt;" ∧ escape "&lt;" = "&amp;lt;") ∧
      ¬ IsSafe "R & D".toList ∧ ¬ IsSafe "&#39".toList ∧
      escape (escape "'") = "&amp;#39;" ∧ escape (escape "'") ≠ escape "'" := by
  obtain ⟨hescaped, hsafe, -, -, htwice⟩ := escaping_is_exact
  have hdecoded : unescape "&amp;lt;" = "&lt;" := by decide +kernel
  have hsame : escape (unescape "&amp;lt;") = "&amp;lt;" := by decide +kernel
  refine ⟨⟨(hsafe _).2 hsame, hdecoded, hdecoded ▸ hsame⟩, ?_, ?_, by decide +kernel, ?_⟩
  · rw [hsafe]
    decide +kernel
  · rw [hsafe]
    decide +kernel
  · intro h
    have hplain := ((htwice "'").2.1 h '\'' (by decide)).2
    exact absurd hplain (by decide)

end CanvasPress.Text
