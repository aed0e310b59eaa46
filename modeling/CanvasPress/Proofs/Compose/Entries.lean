/-
# Entries laid out

A section shows one element for each entry, one line below the other.  Where a line stands is
computed in 32 bits, and the computation is exact for as many positions as there are baselines
of 32 bits; `ComputesExactly` says what it means for each of its steps.

An entry is escaped and a number has digits only, so the characters of markup in a section are
those of its elements, however much an entry looks like one.  Cut at these characters, a section
falls into the same number of pieces for each element, and `elements` reads the baselines and the
entries off them.
-/

import CanvasPress.Compose
import CanvasPress.Proofs.Text.Safe
import Mathlib.Order.Basic

namespace CanvasPress.Section

open Text

/-! ## Baselines -/

/-- No step in which the baseline at a position is computed runs over 32 bits. -/
structure ComputesExactly (index : Nat) : Prop where
  /-- The position is not cut. -/
  position : index.toUInt32.toNat = index
  product : (index.toUInt32 * lineStep).toNat = index.toUInt32.toNat * lineStep.toNat
  sum : (baseline index).toNat = firstLine.toNat + (index.toUInt32 * lineStep).toNat

theorem ComputesExactly.toNat_baseline {index : Nat} (h : ComputesExactly index) :
    (baseline index).toNat = 56 + 22 * index := by
  rw [h.sum, h.product, h.position, Nat.mul_comm]
  rfl

/-- There are baselines for the first 195225784 positions and no others. -/
theorem computesExactly_iff {index : Nat} : ComputesExactly index ↔ index < 195225784 := by
  constructor
  · intro h
    have hbaseline := h.toNat_baseline
    have hword := (baseline index).toNat_lt
    omega
  · intro h
    have hposition : index.toUInt32.toNat = index :=
      Nat.mod_eq_of_lt (show index < 2 ^ 32 by omega)
    have hproduct : (index.toUInt32 * lineStep).toNat = index.toUInt32.toNat * lineStep.toNat := by
      rw [UInt32.toNat_mul, hposition]
      exact Nat.mod_eq_of_lt (show index * 22 < 2 ^ 32 by omega)
    refine ⟨hposition, hproduct, ?_⟩
    rw [baseline, UInt32.toNat_add, hproduct, hposition]
    exact Nat.mod_eq_of_lt (show 56 + index * 22 < 2 ^ 32 by omega)

/-- The sections that can be laid out exactly have at most 195225784 entries. -/
theorem forall_computesExactly_iff {count : Nat} :
    (∀ index < count, ComputesExactly index) ↔ count ≤ 195225784 := by
  simp only [computesExactly_iff]
  constructor
  · intro h
    by_contra hcount
    exact absurd (h 195225784 (Nat.not_le.1 hcount)) (Nat.lt_irrefl _)
  · intro h index hindex
    omega

/-! ## Elements -/

/-- The pieces of an element, each with the character of markup that ends it. -/
def pieces (index : Nat) (entry : String) : List (List Char × Char) :=
  [([], '<'), ("text x=".toList, '"'), ((decimal inset).toList, '"'), (" y=".toList, '"'),
    ((decimal (baseline index).toNat).toList, '"'), (" class=".toList, '"'), ("item".toList, '"'),
    ([], '>'), ('•' :: ' ' :: escapeList (trimList entry.toList), '<'), ("/text".toList, '>')]

theorem toList_entryMarkup (index : Nat) (entry : String) :
    (entryMarkup index entry).toList = (pieces index entry).flatMap fun q => q.1 ++ [q.2] := by
  have hopen : "<text x=\"".toList = '<' :: ("text x=".toList ++ ['"']) := by decide
  have hline : "\" y=\"".toList = '"' :: (" y=".toList ++ ['"']) := by decide
  have hclass : "\" class=\"item\">• ".toList =
      '"' :: (" class=".toList ++ '"' :: ("item".toList ++ ['"', '>', '•', ' '])) := by decide
  have hclose : "</text>".toList = '<' :: ("/text".toList ++ ['>']) := by decide
  unfold entryMarkup pieces
  simp only [String.toList_append, toList_escape, trim, String.toList_ofList, hopen, hline, hclass,
    hclose, List.flatMap_cons, List.flatMap_nil, List.append_assoc, List.cons_append,
    List.nil_append]

/-- No piece holds markup, and every piece is ended by some. -/
theorem isMarkup_pieces (index : Nat) (entry : String) :
    ∀ q ∈ pieces index entry, (∀ c ∈ q.1, isMarkup c = false) ∧ isMarkup q.2 = true := by
  have hdecimal (n : Nat) : ∀ c ∈ (decimal n).toList, isMarkup c = false := by
    intro c hc
    refine isMarkup_eq_false_iff.2 ⟨?_, ?_, ?_, ?_⟩ <;> rintro rfl <;>
      exact not_mem_decimal (by decide) n hc
  have hentry : ∀ c ∈ escapeList (trimList entry.toList), isMarkup c = false :=
    fun c hc => isMarkup_of_mem_escapeList hc
  have hplain {s : List Char} (h : s.any isMarkup = false) : ∀ c ∈ s, isMarkup c = false := by
    simpa using h
  simp only [pieces, List.forall_mem_cons]
  exact ⟨⟨nofun, by decide⟩, ⟨hplain (by decide), by decide⟩, ⟨hdecimal _, by decide⟩,
    ⟨hplain (by decide), by decide⟩, ⟨hdecimal _, by decide⟩, ⟨hplain (by decide), by decide⟩,
    ⟨hplain (by decide), by decide⟩, ⟨nofun, by decide⟩,
    ⟨⟨by decide, by decide, hentry⟩, by decide⟩, ⟨hplain (by decide), by decide⟩, nofun⟩

/-- A text is cut behind each of the pieces that it is put together from. -/
theorem splitOnP_flatMap {α : Type} {p : α → Bool} {found : List (List α × α)}
    (h : ∀ q ∈ found, (∀ c ∈ q.1, p c = false) ∧ p q.2 = true) (rest : List α) :
    ((found.flatMap fun q => q.1 ++ [q.2]) ++ rest).splitOnP p =
      found.map Prod.fst ++ rest.splitOnP p := by
  induction found with
  | nil => rfl
  | cons q found ih =>
      obtain ⟨⟨hpiece, hend⟩, hrest⟩ := List.forall_mem_cons.1 h
      rw [List.flatMap_cons, List.append_assoc, List.append_assoc, List.singleton_append,
        List.splitOnP_append_cons_of_forall_mem hpiece _ hend, ih hrest, List.map_cons,
        List.cons_append]

/-- The baselines and the entries of the elements that pieces belong to. -/
def elementsOf : List (List Char) → List (Nat × String)
  | _ :: _ :: _ :: _ :: line :: _ :: _ :: _ :: entry :: _ :: rest =>
    (Nat.ofDigitChars 10 line 0, String.ofList (unescapeList (entry.drop 2))) :: elementsOf rest
  | _ => []

/-- The baselines and the entries of the elements of a section. -/
def elements (markup : String) : List (Nat × String) :=
  elementsOf (markup.toList.splitOnP isMarkup)

/-- The element of an entry is read, whatever stands behind it. -/
theorem elementsOf_entryMarkup_append (index : Nat) (entry : String) (rest : List Char) :
    elementsOf (((entryMarkup index entry).toList ++ rest).splitOnP isMarkup) =
      ((baseline index).toNat, trim entry) :: elementsOf (rest.splitOnP isMarkup) := by
  rw [toList_entryMarkup, splitOnP_flatMap (isMarkup_pieces index entry)]
  have hline : Nat.ofDigitChars 10 (decimal (baseline index).toNat).toList 0 =
      (baseline index).toNat := by
    rw [decimal, String.toList_ofList, Nat.ofDigitChars_ten_toDigits]
  have hentry : unescapeList (escapeList (trimList entry.toList)) = trimList entry.toList :=
    unescapeList_escapeList _
  simp only [pieces, List.map_cons, List.map_nil, List.cons_append, List.nil_append, elementsOf,
    List.drop_succ_cons, List.drop_zero, hline, hentry]
  rfl

theorem elements_entriesMarkup (index : Nat) (entries : List String) :
    elements (entriesMarkup index entries) =
      entries.mapIdx fun i entry => ((baseline (index + i)).toNat, trim entry) := by
  induction entries generalizing index with
  | nil => rfl
  | cons entry entries ih =>
      have hrest := ih (index + 1)
      rw [elements] at hrest
      rw [elements, entriesMarkup, String.toList_append, elementsOf_entryMarkup_append, hrest,
        List.mapIdx_cons]
      simp only [Nat.add_zero, Nat.add_assoc, Nat.add_comm 1]

/-- The markup of entries is that of each of them, in their order. -/
theorem entriesMarkup_eq_join (index : Nat) (entries : List String) :
    entriesMarkup index entries =
      String.join (entries.mapIdx fun i entry => entryMarkup (index + i) entry) := by
  induction entries generalizing index with
  | nil => rfl
  | cons entry entries ih =>
      rw [entriesMarkup, ih, List.mapIdx_cons, String.join_cons]
      simp only [Nat.add_zero, Nat.add_assoc, Nat.add_comm 1]

/-- What is read from a section, however many entries it has. -/
theorem elements_markup (s : Section) :
    elements s.markup =
      s.entries.mapIdx fun index entry => ((baseline index).toNat, trim entry) := by
  rw [markup, elements_entriesMarkup]
  simp only [Nat.zero_add]

/-- The entries are read back from a section, trimmed. -/
theorem map_snd_elements (s : Section) :
    (elements s.markup).map Prod.snd = s.entries.map trim := by
  rw [elements_markup]
  exact List.ext_getElem (by simp) fun index _ _ => by simp

/-- Sections of the same markup have the same entries up to blanks around them. -/
theorem map_trim_entries_eq {s s' : Section} (h : s'.markup = s.markup) :
    s'.entries.map trim = s.entries.map trim := by
  rw [← map_snd_elements, h, map_snd_elements]

/-! ## The theorem -/

/-- **The layout of a section is faithful.**  Of a section with at most 195225784 entries,

* no baseline is computed with a number that runs over 32 bits, and no more entries than these
  could have such baselines,
* the markup is one element for each entry, in their order: the line of the entry at a position,
  and the entry itself, trimmed and escaped,
* these lines and entries, and nothing else, are read from the markup: one for a text, and for a
  list as many as it has, in lines that go down,
* and no section with other entries, up to blanks around them, has the same markup. -/
theorem markup_is_faithful (s : Section) (h : s.entries.length ≤ 195225784) :
    (∀ index < s.entries.length, ComputesExactly index) ∧
      (∀ count, (∀ index < count, ComputesExactly index) ↔ count ≤ 195225784) ∧
      s.markup = String.join (s.entries.mapIdx fun index entry =>
        "<text x=\"16\" y=\"" ++ decimal (56 + 22 * index) ++ "\" class=\"item\">• " ++
          escape (trim entry) ++ "</text>") ∧
      elements s.markup = s.entries.mapIdx (fun index entry => (56 + 22 * index, trim entry)) ∧
      (elements s.markup).length =
        (match s with
        | .text _ => 1
        | .list entries => entries.length) ∧
      ((elements s.markup).map Prod.fst).Pairwise (· < ·) ∧
      (elements s.markup).map Prod.snd = s.entries.map trim ∧
      ∀ s' : Section, s'.markup = s.markup → s'.entries.map trim = s.entries.map trim := by
  have hexact : ∀ index < s.entries.length, ComputesExactly index :=
    forall_computesExactly_iff.2 h
  have helements : elements s.markup =
      s.entries.mapIdx fun index entry => (56 + 22 * index, trim entry) := by
    rw [elements_markup, List.mapIdx_eq_mapIdx_iff]
    intro index hindex
    rw [(hexact index hindex).toNat_baseline]
  refine ⟨hexact, fun _ => forall_computesExactly_iff, ?_, helements, ?_, ?_, map_snd_elements s,
    fun s' => map_trim_entries_eq⟩
  · rw [markup, entriesMarkup_eq_join]
    refine congrArg String.join ?_
    rw [List.mapIdx_eq_mapIdx_iff]
    intro index hindex
    rw [Nat.zero_add, entryMarkup, (hexact index hindex).toNat_baseline]
    rfl
  · rw [helements, List.length_mapIdx]
    cases s <;> rfl
  · rw [helements, List.pairwise_iff_getElem]
    intro index later _ _ hlater
    simp only [List.getElem_map, List.getElem_mapIdx]
    omega

/-- Entries that close their own element, that are blank or that look escaped. -/
theorem markup_is_faithful_of_lookalikes :
    let s : Section := .list ["</text>\"", " \t", "&lt; "]
    s.entries.length ≤ 195225784 ∧
      s.markup = "<text x=\"16\" y=\"56\" class=\"item\">• &lt;/text&gt;&quot;</text>" ++
        "<text x=\"16\" y=\"78\" class=\"item\">• </text>" ++
        "<text x=\"16\" y=\"100\" class=\"item\">• &amp;lt;</text>" ∧
      elements s.markup = [(56, "</text>\""), (78, ""), (100, "&lt;")] := by
  intro s
  have hcount : s.entries.length ≤ 195225784 := by decide
  obtain ⟨-, -, hmarkup, helements, -⟩ := markup_is_faithful s hcount
  exact ⟨hcount, hmarkup.trans (by decide +kernel), helements.trans (by decide +kernel)⟩

end CanvasPress.Section
