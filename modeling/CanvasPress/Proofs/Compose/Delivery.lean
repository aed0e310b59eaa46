/-
# Vector output loses no content

What is delivered as vector output is a filled built-in template, escaped where text is
put in and squeezed as a whole.  Still it tells the title, which sections of the layout
there are, and all their entries, up to runs of blanks: entries end where their tags do,
an empty list is not a missing section, and nothing that is written in a text is taken for
a tag or a slot.

The proof reads two equal outputs in parallel from the left.  Fixed text up to the end of
a tag is cancelled (`tidy_cancel`), and what is put in stands between tags, so that it is
found again up to blanks (`tidy_text_inj`).
-/

import CanvasPress.Conversion
import CanvasPress.Proofs.Compose.Values
import CanvasPress.Proofs.Template.Builtin
import CanvasPress.Proofs.Text.Squeeze

namespace CanvasPress

open Template Text

/-! ## Entries -/

namespace Section

/-- An entry as it is shown: trimmed, with one space for each run of blanks. -/
def shownEntry (entry : String) : List Char :=
  collapse (trimList entry.toList)

/-- The entries of a section as they are shown. -/
def shown (s : Section) : List (List Char) :=
  s.entries.map shownEntry

/-- The tag in front of the entry at a position. -/
def entryTag (index : Nat) : List Char :=
  ("<text x=\"" ++ decimal inset ++ "\" y=\"" ++ decimal (baseline index).toNat ++
    "\" class=\"item\">").toList

/-- What stands behind the tag of an entry. -/
def entryText (entry : String) : List Char :=
  '•' :: ' ' :: escapeList (trimList entry.toList)

theorem toList_entriesMarkup_cons (index : Nat) (entry : String) (entries : List String) :
    (entriesMarkup index (entry :: entries)).toList =
      entryTag index ++ (entryText entry ++ ("</text>".toList ++
        (entriesMarkup (index + 1) entries).toList)) := by
  have hbullet : "\" class=\"item\">• ".toList = "\" class=\"item\">".toList ++ ['•', ' '] := by
    decide
  rw [entriesMarkup]
  unfold entryMarkup entryTag entryText
  simp only [String.toList_append, toList_escape, trim, String.toList_ofList, hbullet,
    List.append_assoc, List.cons_append, List.nil_append]

theorem isText_entryText (entry : String) : IsText (entryText entry) := by
  refine isText_of_isMarkup fun c hc => ?_
  rw [entryText, List.mem_cons, List.mem_cons] at hc
  rcases hc with rfl | rfl | hc
  · rfl
  · rfl
  · exact isMarkup_of_mem_escapeList hc

theorem between_entryText (entry : String) :
    between (entryText entry) = '•' :: ' ' :: escapeList (shownEntry entry) := by
  have hhead : ((escapeList (trimList entry.toList)).head?.map isBlank).getD false = false := by
    rw [isBlank_head?_escapeList]
    cases hfirst : (trimList entry.toList).head? with
    | none => rfl
    | some c => exact isBlank_of_head?_trimList hfirst
  rw [between, entryText, if_neg (by simp [isBlank]), collapse_cons_of_not_isBlank (by decide),
    collapse, if_pos (by decide), hhead, collapse_escapeList]
  rfl

theorem suffix_entryTag (index : Nat) : ['>'] <:+ entryTag index := by
  unfold entryTag
  rw [String.toList_append]
  have hends : ['>'] <:+ "\" class=\"item\">".toList := ⟨"\" class=\"item\"".toList, by decide⟩
  exact hends.trans (List.suffix_append _ _)

theorem exists_entryTag_eq (index : Nat) : ∃ more, entryTag index = '<' :: 't' :: more := by
  unfold entryTag
  simp only [String.toList_append]
  exact ⟨_, rfl⟩

/-- No entries are told from some, because another tag stands in their place. -/
theorem tidy_entriesMarkup_cons_ne (index : Nat) (entry : String) (entries : List String)
    (rest rest' : List Char) :
    tidy ('>' :: ((entriesMarkup index (entry :: entries)).toList ++ '<' :: '/' :: rest)) ≠
      tidy ('>' :: ((entriesMarkup index []).toList ++ '<' :: '/' :: rest')) := by
  obtain ⟨more, hmore⟩ := exists_entryTag_eq index
  rw [toList_entriesMarkup_cons, hmore]
  intro h
  exact tidy_ne_of_second_ne (by decide) (by decide) (by decide) _ _ (tidy_open_inj h)

/-- Two lists of entries in front of closing tags are shown the same if all is the same
from there on. -/
theorem tidy_entriesMarkup_inj {index : Nat} {entries entries' : List String}
    {rest rest' : List Char}
    (h : tidy ('>' :: ((entriesMarkup index entries).toList ++ '<' :: '/' :: rest)) =
      tidy ('>' :: ((entriesMarkup index entries').toList ++ '<' :: '/' :: rest'))) :
    entries.map shownEntry = entries'.map shownEntry ∧
      tidy ('<' :: '/' :: rest) = tidy ('<' :: '/' :: rest') := by
  induction entries generalizing index entries' with
  | nil =>
      cases entries' with
      | nil => exact ⟨rfl, tidy_open_inj h⟩
      | cons entry' entries' => exact absurd h.symm (tidy_entriesMarkup_cons_ne _ _ _ _ _)
  | cons entry entries ih =>
      cases entries' with
      | nil => exact absurd h (tidy_entriesMarkup_cons_ne _ _ _ _ _)
      | cons entry' entries' =>
          have hclosing : "</text>".toList = '<' :: "/text>".toList := by decide
          simp only [toList_entriesMarkup_cons, List.append_assoc] at h
          rw [← List.cons_append, ← List.cons_append] at h
          -- The tag of the entries is the same, because it tells their place only.
          have htexts := tidy_cancel ((suffix_entryTag index).trans (List.suffix_cons _ _)) h
          rw [hclosing] at htexts
          obtain ⟨hentry, hbehind⟩ :=
            tidy_text_inj (isText_entryText entry) (isText_entryText entry') htexts
          rw [between_entryText, between_entryText] at hentry
          have hshown : shownEntry entry = shownEntry entry' :=
            escapeList_injective (List.cons.inj (List.cons.inj hentry).2).2
          have hends : ['>'] <:+ '<' :: "/text>".toList := ⟨"</text".toList, by decide⟩
          obtain ⟨hentries, hrest⟩ := ih (tidy_cancel hends hbehind)
          rw [List.map_cons, List.map_cons, hshown, hentries]
          exact ⟨rfl, hrest⟩

/-! ## Slots -/

/-- Markup of entries in front of a tag begins with a tag. -/
theorem exists_entriesMarkup_append_eq (index : Nat) (entries : List String)
    (rest : List Char) :
    ∃ more, (entriesMarkup index entries).toList ++ '<' :: rest = '<' :: more := by
  cases entries with
  | nil => exact ⟨rest, rfl⟩
  | cons entry entries =>
      obtain ⟨more, hmore⟩ := exists_entryTag_eq index
      rw [toList_entriesMarkup_cons, hmore]
      exact ⟨_, rfl⟩

theorem isText_slotText {key : String} (hslot : (Piece.slot key).IsPlain) :
    IsText (Piece.slotText key).toList := by
  have hplain (c : Char) (hname : isNameChar c = false) (hopen : c ∉ "\x7b\x7b".toList)
      (hclose : c ∉ "\x7d\x7d".toList) : c ∉ (Piece.slotText key).toList := by
    rw [Piece.slotText, String.toList_append, String.toList_append, List.mem_append,
      List.mem_append, not_or, not_or]
    refine ⟨⟨hopen, fun hkey => ?_⟩, hclose⟩
    rw [List.all_eq_true.1 hslot.2 c hkey] at hname
    cases hname
  exact ⟨hplain '<' (by decide) (by decide) (by decide),
    hplain '>' (by decide) (by decide) (by decide)⟩

/-- A slot that is left is told from all markup of entries. -/
theorem tidy_slotText_ne {key : String} (hslot : (Piece.slot key).IsPlain)
    (entries : List String) (rest rest' : List Char) :
    tidy ('>' :: ((Piece.slotText key).toList ++ '<' :: rest)) ≠
      tidy ('>' :: ((entriesMarkup 0 entries).toList ++ '<' :: rest')) := by
  intro h
  obtain ⟨more, hmore⟩ := exists_entriesMarkup_append_eq 0 entries rest'
  rw [hmore, ← List.cons_append] at h
  have hbetween := (tidy_text_inj (isText_slotText hslot) isText_nil h).1
  have hbrace : '\x7b' ∈ (Piece.slotText key).toList := by
    rw [Piece.slotText, String.toList_append, String.toList_append]
    simp
  have hmem := mem_between hbrace (by decide)
  rw [hbetween] at hmem
  cases hmem

/-- Two slots that are filled, or left, in front of closing tags show the same if all is
the same from there on. -/
theorem tidy_slot_inj {key : String} (hslot : (Piece.slot key).IsPlain)
    {s? s?' : Option Section} {rest rest' : List Char}
    (h : tidy ('>' :: (((s?.map markup).getD (Piece.slotText key)).toList ++ '<' :: '/' :: rest)) =
      tidy ('>' ::
        (((s?'.map markup).getD (Piece.slotText key)).toList ++ '<' :: '/' :: rest'))) :
    s?.map shown = s?'.map shown ∧ tidy ('<' :: '/' :: rest) = tidy ('<' :: '/' :: rest') := by
  cases s? with
  | none =>
      cases s?' with
      | none =>
          rw [← List.cons_append, ← List.cons_append] at h
          exact ⟨rfl, (tidy_text_inj (isText_slotText hslot) (isText_slotText hslot) h).2⟩
      | some s' => exact absurd h (tidy_slotText_ne hslot s'.entries _ _)
  | some s =>
      cases s?' with
      | none => exact absurd h.symm (tidy_slotText_ne hslot s.entries _ _)
      | some s' =>
          obtain ⟨hshown, hrest⟩ := tidy_entriesMarkup_inj h
          exact ⟨congrArg some hshown, hrest⟩

end Section

namespace Document

variable {document document' : Document} {options : RenderOptions} {generatedAt : Timestamp}

/-- The title as it is shown. -/
def shownTitle (document : Document) : List Char :=
  collapse document.title.toList

/-- A section as it is shown, if the document has it. -/
def shown? (document : Document) (key : String) : Option (List (List Char)) :=
  (document.section? key).map Section.shown

/-! ## Blocks -/

theorem not_mem_layoutNames_of_mem {kind : Kind} {block : Block} (h : block ∈ Layout.blocks kind) :
    block.key ∉ layoutNames := by
  have hall : ∀ block ∈ Layout.blocks kind, block.key ∉ layoutNames := by
    cases kind <;> decide
  exact hall block h

/-- A block is fixed markup around its slot. -/
theorem exists_fill_blockPieces (theme : Theme) (block : Block) :
    ∃ lead, ['>'] <:+ lead ∧ ∀ value?,
      (blockPieces theme block).flatMap (Piece.fill value?) =
        lead ++ ((Piece.slot block.key).fill value? ++ '<' :: '/' :: "g>\n  </g>\n".toList) := by
  obtain ⟨lead, hlead⟩ : ∃ lead, blockPieces theme block =
      [.text (lead ++ "\">"), .slot block.key, .text "</g>\n  </g>\n"] := ⟨_, rfl⟩
  have hends : ['>'] <:+ "\">".toList := ⟨['"'], by decide⟩
  refine ⟨lead.toList ++ "\">".toList, hends.trans (List.suffix_append _ _), fun value? => ?_⟩
  rw [hlead, List.flatMap_cons, List.flatMap_cons, List.flatMap_cons, List.flatMap_nil,
    List.append_nil, Piece.fill, String.toList_append]
  rfl

/-- All blocks show the same if all is the same behind the same front. -/
theorem shown?_eq_of_tidy_blocks {kind : Kind} {theme : Theme} {blocks : List Block}
    (front : List Char) {rest rest' : List Char}
    (hblocks : ∀ block ∈ blocks, block ∈ Layout.blocks kind)
    (h : tidy (front ++ ((blocks.flatMap (blockPieces theme)).flatMap
        (Piece.fill (document.value? options generatedAt)) ++ rest)) =
      tidy (front ++ ((blocks.flatMap (blockPieces theme)).flatMap
        (Piece.fill (document'.value? options generatedAt)) ++ rest'))) :
    ∀ block ∈ blocks, document.shown? block.key = document'.shown? block.key := by
  induction blocks generalizing front with
  | nil =>
      intro block hblock
      cases hblock
  | cons first blocks ih =>
      have hfirst := hblocks first List.mem_cons_self
      obtain ⟨lead, hends, hfill⟩ := exists_fill_blockPieces theme first
      simp only [List.flatMap_cons, List.flatMap_append, hfill, List.append_assoc,
        List.cons_append] at h
      rw [← List.append_assoc front, ← List.append_assoc front] at h
      have hslots := tidy_cancel (hends.trans (List.suffix_append _ _)) h
      simp only [Piece.fill, value?_of_not_mem _ _ _ (not_mem_layoutNames_of_mem hfirst)] at hslots
      obtain ⟨hshown, hrest⟩ := Section.tidy_slot_inj (Layout.isPlain_of_mem hfirst).1 hslots
      intro block hblock
      rcases List.mem_cons.1 hblock with rfl | hblock
      · exact hshown
      · exact ih ('<' :: '/' :: "g>\n  </g>\n".toList)
          (fun block hmem => hblocks block (List.mem_cons_of_mem _ hmem)) hrest block hblock

/-! ## In front of the blocks -/

/-- The metadata element is a tag between fixed tags. -/
theorem exists_metadataMarkup_append_eq (document : Document) (options : RenderOptions)
    (generatedAt : Timestamp) :
    ∃ tag, '>' ∉ tag ∧ ∀ behind, (document.metadataMarkup options generatedAt).toList ++ behind =
      '<' :: ("metadata>".toList ++ ('<' :: tag ++ '>' :: ("</metadata>".toList ++ behind))) := by
  have hopening : "<metadata><canvas type=\"".toList =
      '<' :: ("metadata>".toList ++ '<' :: "canvas type=\"".toList) := by decide
  have hclosing : "\"/></metadata>".toList = "\"/".toList ++ '>' :: "</metadata>".toList := by
    decide
  have hname : '>' ∉ document.kind.name.toList := by
    cases document.kind <;> decide
  have hescape (text : String) : '>' ∉ (escape text).toList := by
    rw [toList_escape]
    exact (isText_escapeList _).2
  have hdecimal (n : Nat) : '>' ∉ (decimal n).toList := not_mem_decimal (by decide) n
  refine ⟨"canvas type=\"".toList ++ (document.kind.name.toList ++ ("\" theme=\"".toList ++
    ((escape options.theme).toList ++ ("\" generatedAt=\"".toList ++
      ((escape generatedAt.wholeText).toList ++ ("\" sections=\"".toList ++
        ((decimal document.sections.length).toList ++ "\"/".toList))))))), ?_, fun behind => ?_⟩
  · simp only [List.mem_append, hname, hescape, hdecimal]
    decide
  · unfold metadataMarkup
    simp only [String.toList_append, hopening, hclosing, List.append_assoc, List.cons_append]

/-- The metadata element ends behind its own tag. -/
theorem tidy_metadataMarkup_inj {front middle rest rest' : List Char} (hfront : ['>'] <:+ front)
    (hmiddle : ['>'] <:+ middle)
    (h : tidy (front ++ ("\n  ".toList ++
        ((document.metadataMarkup options generatedAt).toList ++ (middle ++ rest)))) =
      tidy (front ++ ("\n  ".toList ++
        ((document'.metadataMarkup options generatedAt).toList ++ (middle ++ rest'))))) :
    tidy ('>' :: rest) = tidy ('>' :: rest') := by
  obtain ⟨tag, htag, hmarkup⟩ := exists_metadataMarkup_append_eq document options generatedAt
  obtain ⟨tag', htag', hmarkup'⟩ := exists_metadataMarkup_append_eq document' options generatedAt
  have hgap : IsText "\n  ".toList := ⟨by decide, by decide⟩
  have hends : ['>'] <:+ '<' :: "metadata>".toList := ⟨"<metadata".toList, by decide⟩
  rw [hmarkup, hmarkup'] at h
  have helement := (tidy_text_inj hgap hgap (tidy_cancel hfront h)).2
  have htag := (tidy_tag_inj htag htag' (tidy_open_inj (tidy_cancel hends helement))).2
  rw [← List.append_assoc, ← List.append_assoc, ← List.cons_append, ← List.cons_append] at htag
  exact tidy_cancel (hmiddle.trans (List.suffix_append _ _) |>.trans (List.suffix_cons _ _)) htag

/-- With or without metadata, all is the same behind them if all is the same. -/
theorem tidy_metadata_inj {front middle rest rest' : List Char} (hfront : ['>'] <:+ front)
    (hmiddle : ['>'] <:+ middle)
    (h : tidy (front ++ ("\n  ".toList ++
        ((if options.includeMetadata then document.metadataMarkup options generatedAt
          else "").toList ++ (middle ++ rest)))) =
      tidy (front ++ ("\n  ".toList ++
        ((if options.includeMetadata then document'.metadataMarkup options generatedAt
          else "").toList ++ (middle ++ rest'))))) :
    tidy ('>' :: rest) = tidy ('>' :: rest') := by
  by_cases hmetadata : options.includeMetadata = true
  · rw [if_pos hmetadata, if_pos hmetadata] at h
    exact tidy_metadataMarkup_inj hfront hmiddle h
  · rw [if_neg hmetadata, if_neg hmetadata, String.toList_empty, List.nil_append,
      List.nil_append] at h
    simp only [← List.append_assoc] at h
    exact tidy_cancel (hmiddle.trans (List.suffix_append _ _)) h

theorem exists_opening_eq (theme : Theme) :
    ∃ head height style ground date rule,
      opening theme = [.text head, .slot "width", .text height, .slot "height",
        .text (style ++ "\">\n  "), .slot "metadata", .text (ground ++ "\">"), .slot "title",
        .text date, .slot "generatedAt", .text rule] ∧
      (∃ more, head.toList = '<' :: more) ∧ ∃ more, date.toList = '<' :: more := by
  refine ⟨_, _, _, _, _, _, rfl, ⟨_, rfl⟩, ?_⟩
  rw [String.toList_append, String.toList_append]
  exact ⟨_, rfl⟩

/-- In front of the blocks stand fixed markup, the metadata and the title. -/
theorem exists_fill_opening (theme : Theme) (options : RenderOptions) (generatedAt : Timestamp) :
    ∃ front middle behind, ['>'] <:+ front ∧ ['>'] <:+ middle ∧ ∀ document : Document,
      (opening theme).flatMap (Piece.fill (document.value? options generatedAt)) =
        '<' :: (front ++ ("\n  ".toList ++
          ((if options.includeMetadata then document.metadataMarkup options generatedAt
            else "").toList ++ (middle ++ (escapeList document.title.toList ++
              '<' :: behind))))) := by
  obtain ⟨head, height, style, ground, date, rule, hopening, ⟨head', hhead⟩, date', hdate⟩ :=
    exists_opening_eq theme
  have hends : ['>'] <:+ "\">".toList := ⟨['"'], by decide⟩
  have hgap : "\">\n  ".toList = "\">".toList ++ "\n  ".toList := by decide
  refine ⟨head' ++ (decimal options.width).toList ++ height.toList ++
      (decimal options.height).toList ++ style.toList ++ "\">".toList,
    ground.toList ++ "\">".toList, date' ++ (escape generatedAt.wholeText).toList ++ rule.toList,
    hends.trans (List.suffix_append _ _), hends.trans (List.suffix_append _ _),
    fun document => ?_⟩
  have hwidth : document.value? options generatedAt "width" = some (decimal options.width) := rfl
  have hheight : document.value? options generatedAt "height" = some (decimal options.height) := rfl
  have hdate' : document.value? options generatedAt "generatedAt" =
      some (escape generatedAt.wholeText) := rfl
  simp only [hopening, List.flatMap_cons, List.flatMap_nil, Piece.fill, hwidth, hheight, hdate',
    value?_title, value?_metadata, Option.getD_some, String.toList_append, toList_escape, hhead,
    hdate, hgap, List.append_assoc, List.cons_append, List.append_nil]

/-! ## The whole -/

/-- The bytes delivered for a document as vector output, from the built-in template. -/
def delivered (document : Document) (theme : String) (options : RenderOptions)
    (generatedAt : Timestamp) : ByteArray :=
  (Conversion.vector (document.compose (builtin document.kind (Theme.ofName theme)) options
    generatedAt) false).body.bytes

theorem toList_compose_builtin (document : Document) (theme : String) (options : RenderOptions)
    (generatedAt : Timestamp) :
    (document.compose (builtin document.kind (Theme.ofName theme)) options generatedAt).toList =
      (opening (Theme.ofName theme)).flatMap (Piece.fill (document.value? options generatedAt)) ++
        (((Layout.blocks document.kind).flatMap (blockPieces (Theme.ofName theme))).flatMap
          (Piece.fill (document.value? options generatedAt)) ++ "</svg>\n".toList) := by
  rw [toList_compose, builtin, fill_writeAll _ fun piece hpiece =>
    isPlain_of_mem_builtinPieces (Theme.isPlain_ofName theme) hpiece, builtinPieces,
    List.flatMap_append, List.flatMap_append, List.append_assoc]
  rfl

/-- Two documents of which the same bytes are delivered are the same before the ends are
trimmed. -/
theorem tidy_compose_eq_of_delivered_eq {theme : String}
    (h : document.delivered theme options generatedAt =
      document'.delivered theme options generatedAt) :
    tidy (document.compose (builtin document.kind (Theme.ofName theme)) options
        generatedAt).toList =
      tidy (document'.compose (builtin document'.kind (Theme.ofName theme)) options
        generatedAt).toList := by
  have hends (document : Document) : ∃ body, (document.compose
      (builtin document.kind (Theme.ofName theme)) options generatedAt).toList =
        '<' :: body ++ ['>', '\n'] := by
    obtain ⟨front, middle, behind, -, -, hopening⟩ :=
      exists_fill_opening (Theme.ofName theme) options generatedAt
    have hclosing : "</svg>\n".toList = "</svg".toList ++ ['>', '\n'] := by decide
    rw [toList_compose_builtin, hopening, hclosing, ← List.append_assoc, ← List.append_assoc]
    exact ⟨_, rfl⟩
  obtain ⟨body, hbody⟩ := hends document
  obtain ⟨body', hbody'⟩ := hends document'
  have hsqueeze : squeezeList ('<' :: body ++ ['>', '\n']) =
      squeezeList ('<' :: body' ++ ['>', '\n']) := by
    rw [← hbody, ← hbody']
    exact String.ofList_inj.1 (String.toByteArray_inj.1 h)
  rw [hbody, hbody', tidy_eq_squeezeList_append, tidy_eq_squeezeList_append, hsqueeze]

theorem all_isBlank_title (document : Document) : document.title.toList.all isBlank = false := by
  have hkind : document.kind.displayName.toList.all isBlank = false := by
    cases document.kind <;> decide
  rw [title, title?]
  rcases document.section? "title" with _ | (text | entries)
  · exact hkind
  · by_cases hblank : isBlankText text = true
    · simp only [if_pos hblank, Option.getD_none, hkind]
    · simp only [if_neg hblank, Option.getD_some]
      exact Bool.eq_false_of_not_eq_true hblank
  · exact hkind

/-- Two documents of a kind of which the same bytes are delivered show the same. -/
theorem shown_eq_of_delivered_eq {theme : String} (hkind : document.kind = document'.kind)
    (h : document.delivered theme options generatedAt =
      document'.delivered theme options generatedAt) :
    document.shownTitle = document'.shownTitle ∧
      ∀ block ∈ Layout.blocks document.kind,
        document.shown? block.key = document'.shown? block.key := by
  obtain ⟨front, middle, behind, hfront, hmiddle, hopening⟩ :=
    exists_fill_opening (Theme.ofName theme) options generatedAt
  have htidy := tidy_compose_eq_of_delivered_eq h
  rw [toList_compose_builtin, toList_compose_builtin, ← hkind, hopening, hopening] at htidy
  simp only [List.append_assoc, List.cons_append] at htidy
  have htitle := tidy_metadata_inj (hfront.trans (List.suffix_cons _ _)) hmiddle htidy
  obtain ⟨hbetween, hblocks⟩ :=
    tidy_text_inj (isText_escapeList _) (isText_escapeList _) htitle
  rw [between_escapeList (all_isBlank_title document),
    between_escapeList (all_isBlank_title document')] at hbetween
  exact ⟨escapeList_injective hbetween,
    shown?_eq_of_tidy_blocks ('<' :: behind) (fun _ hblock => hblock) hblocks⟩

/-- **Vector output loses no content.**  In every theme, with all options and at all times,

* two documents of a kind of which the same bytes are delivered have the same title and,
  under each key of the layout, the same entries, up to runs of blanks, or neither has a
  section there,
* and so the title and the sections of all documents of a kind can be read back from the
  bytes. -/
theorem delivered_keeps_content (theme : String) (options : RenderOptions)
    (generatedAt : Timestamp) :
    (∀ document document' : Document, document.kind = document'.kind →
        document.delivered theme options generatedAt =
          document'.delivered theme options generatedAt →
        document.shownTitle = document'.shownTitle ∧
          ∀ key ∈ Layout.keys document.kind, document.shown? key = document'.shown? key) ∧
      ∀ kind, ∃ decode : ByteArray → List Char × List (Option (List (List Char))),
        ∀ document : Document, document.kind = kind →
          decode (document.delivered theme options generatedAt) =
            (document.shownTitle, (Layout.keys kind).map document.shown?) := by
  have hinj (document document' : Document) (hkind : document.kind = document'.kind)
      (h : document.delivered theme options generatedAt =
        document'.delivered theme options generatedAt) :
      document.shownTitle = document'.shownTitle ∧
        ∀ key ∈ Layout.keys document.kind, document.shown? key = document'.shown? key := by
    obtain ⟨htitle, hblocks⟩ := shown_eq_of_delivered_eq hkind h
    refine ⟨htitle, fun key hkey => ?_⟩
    obtain ⟨block, hblock, rfl⟩ := List.mem_map.1 hkey
    exact hblocks block hblock
  refine ⟨hinj, fun kind => ?_⟩
  -- What bytes are read back as is what is shown by any document they are delivered for.
  let told (document : { document : Document // document.kind = kind }) :=
    (document.1.shownTitle, (Layout.keys kind).map document.1.shown?)
  have htold : Function.FactorsThrough told fun document =>
      document.1.delivered theme options generatedAt := by
    rintro ⟨document, rfl⟩ ⟨document', hkind⟩ h
    obtain ⟨htitle, hsections⟩ := hinj document document' hkind.symm h
    exact Prod.ext htitle (List.map_congr_left hsections)
  obtain ⟨decode, hdecode⟩ := (Function.factorsThrough_iff told).1 htold
  exact ⟨decode, fun document hkind => (congrFun hdecode ⟨document, hkind⟩).symm⟩

/-- Free text, tags and quotes included, is told from no list but that of the trimmed text,
and a tag written in a title is not taken for one. -/
theorem delivered_keeps_content_of_hostile_text :
    let document := ((ofKind .valueProposition).withText "title" "> </text> <").withText
      "pains" " \x7b\x7bgains\x7d\x7d> <' "
    let document' := ((ofKind .valueProposition).withText "title" "> </text> <").withList
      "pains" ["\x7b\x7bgains\x7d\x7d> <'"]
    document.kind = document'.kind ∧
      document.delivered "dark" (.ofSettings {}) ⟨0, 0⟩ =
        document'.delivered "dark" (.ofSettings {}) ⟨0, 0⟩ ∧
      document.shownTitle = document'.shownTitle ∧
      ∀ key ∈ Layout.keys document.kind, document.shown? key = document'.shown? key := by
  intro document document'
  have hvalues : document.values (.ofSettings {}) ⟨0, 0⟩ =
      document'.values (.ofSettings {}) ⟨0, 0⟩ := by
    decide +kernel
  have hkind : document.kind = document'.kind := rfl
  have hdelivered : document.delivered "dark" (.ofSettings {}) ⟨0, 0⟩ =
      document'.delivered "dark" (.ofSettings {}) ⟨0, 0⟩ := by
    rw [delivered, delivered, compose, compose, hvalues, hkind]
  exact ⟨hkind, hdelivered,
    (delivered_keeps_content "dark" (.ofSettings {}) ⟨0, 0⟩).1 document document' hkind hdelivered⟩

end Document

end CanvasPress
