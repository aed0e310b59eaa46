/-
# Missing sections are reported

A canvas composed from a built-in template reports the slots of the sections that its
document lacks, in the order of the layout, but it cannot tell them from braces that the
document brings in itself.  How much it reports beyond them is settled by the texts it
shows: the theme, if there are metadata, the title, and the entries of its blocks.  Written
on lines of their own, with the slots that are left in their places, these make up the
`outline` of the canvas, and as much is found in the outline as in the canvas.  So the report
is exact where the outline gives rise to no braces of its own, and it is not where it does.
-/

import CanvasPress.Proofs.Compose.Delivery
import CanvasPress.Proofs.Compose.Unresolved
import CanvasPress.Proofs.Template.Outline

namespace CanvasPress

open Template Text

/-! ## Pieces that are settled -/

/-- A piece with its slot replaced by the value, if there is one. -/
def Piece.settle (value? : String → Option String) : Piece → Piece
  | .text content => .text content
  | .slot name =>
    match value? name with
    | some value => .text value
    | none => .slot name

theorem Piece.toList_write_settle (value? : String → Option String) (piece : Piece) :
    (piece.settle value?).write.toList = piece.fill value? := by
  cases piece with
  | text content => rfl
  | slot name =>
      rw [settle, fill]
      cases value? name <;> rfl

/-- A slot that stays is one of the slots before. -/
theorem Piece.slot_mem_of_settle {value? : String → Option String} {pieces : List Piece}
    {name : String} (h : Piece.slot name ∈ pieces.map (settle value?)) : .slot name ∈ pieces := by
  obtain ⟨piece, hpiece, heq⟩ := List.mem_map.1 h
  cases piece with
  | text content => cases heq
  | slot other =>
      rw [settle] at heq
      cases hvalue : value? other with
      | some value =>
          rw [hvalue] at heq
          cases heq
      | none =>
          rw [hvalue] at heq
          rw [← heq]
          exact hpiece

/-! ## Markup without braces -/

theorem Text.isSmooth_decimal (n : Nat) : IsSmooth (decimal n).toList :=
  ⟨not_mem_decimal (by decide) n, not_mem_decimal (by decide) n⟩

theorem Text.isSmooth_padded (width n : Nat) : IsSmooth (padded width n).toList := by
  rw [padded, String.toList_ofList, isSmooth_append_iff]
  constructor
  · constructor <;>
    · intro h
      exact absurd (List.eq_of_mem_replicate h) (by decide)
  · have hdigits := isSmooth_decimal n
    rwa [decimal, String.toList_ofList] at hdigits

/-- A time is written without braces. -/
theorem Timestamp.isSmooth_wholeText (t : Timestamp) : IsSmooth t.wholeText.toList := by
  have hyear (year : Int) : IsSmooth (yearText year).toList := by
    rw [yearText]
    split
    · exact isSmooth_padded _ _
    · split
      all_goals
        rw [String.toList_append, isSmooth_append_iff]
        exact ⟨by decide, isSmooth_padded _ _⟩
  rw [wholeText, textWith]
  simp only [String.toList_append, isSmooth_append_iff, hyear, isSmooth_padded, true_and, and_true]
  decide

theorem Template.isSmooth_of_mem_opening {name content : String}
    (h : .text content ∈ opening (Theme.ofName name)) : IsSmooth content.toList :=
  ⟨not_mem_of_mem_opening (.inl rfl) (Theme.lacks_ofName (.inl rfl) name) h,
    not_mem_of_mem_opening (.inr rfl) (Theme.lacks_ofName (.inr rfl) name) h⟩

theorem Template.isSmooth_of_mem_blockPieces {name content : String} {kind : Kind} {block : Block}
    (hblock : block ∈ Layout.blocks kind)
    (h : .text content ∈ blockPieces (Theme.ofName name) block) : IsSmooth content.toList :=
  ⟨not_mem_of_mem_blockPieces (.inl rfl) (Theme.lacks_ofName (.inl rfl) name) hblock h,
    not_mem_of_mem_blockPieces (.inr rfl) (Theme.lacks_ofName (.inr rfl) name) hblock h⟩

/-! ## What values show -/

/-- Text without braces stays so when it is escaped. -/
theorem Text.isSmooth_escape {text : String} (h : IsSmooth text.toList) :
    IsSmooth (escape text).toList := by
  have hkept {brace : Char} (hbrace : brace = '\x7b' ∨ brace = '\x7d')
      (hmem : brace ∈ escapeList text.toList) : brace ∈ text.toList := by
    obtain ⟨c, hc, hform⟩ := List.mem_flatMap.1 hmem
    rcases escapeChar_braces c with hself | ⟨hsmooth, -, -⟩
    · rw [hself, List.mem_singleton] at hform
      rwa [hform]
    · rcases hbrace with rfl | rfl
      · exact absurd hform hsmooth.1
      · exact absurd hform hsmooth.2
  rw [toList_escape]
  exact ⟨fun hmem => h.1 (hkept (.inl rfl) hmem), fun hmem => h.2 (hkept (.inr rfl) hmem)⟩

/-- A section shows its entries. -/
theorem Section.shows_entriesMarkup (index : Nat) (entries : List String) :
    Shows (entriesMarkup index entries).toList (entries.map fun entry => .text (trim entry)) := by
  induction entries generalizing index with
  | nil => exact .of_isSmooth isSmooth_nil
  | cons entry entries ih =>
      have htag : IsSmooth (entryTag index) := by
        unfold entryTag
        simp only [String.toList_append, isSmooth_append_iff, isSmooth_decimal, and_true]
        decide
      have hbullet : IsSmooth ['•', ' '] := by decide
      have hclosing : IsSmooth "</text>".toList := by decide
      have hentry : Shows (entryText entry) [.text (trim entry)] := by
        have hescaped := (Shows.escape (trim entry)).append_left hbullet
        rw [toList_escape, trim, String.toList_ofList] at hescaped
        exact hescaped
      rw [toList_entriesMarkup_cons]
      exact (hentry.append hclosing (by decide) (ih (index + 1))).append_left htag

namespace Document

variable (document : Document) (options : RenderOptions) (generatedAt : Timestamp)

/-- The metadata show the name of the theme. -/
theorem shows_metadataMarkup :
    Shows (document.metadataMarkup options generatedAt).toList [.text options.theme] := by
  have hkind : IsSmooth document.kind.name.toList := by
    cases document.kind <;> decide
  have hdate := isSmooth_escape generatedAt.isSmooth_wholeText
  have hlead : IsSmooth
      ("<metadata><canvas type=\"" ++ document.kind.name ++ "\" theme=\"").toList := by
    simp only [String.toList_append, isSmooth_append_iff, hkind, and_true]
    decide
  have hbehind : IsSmooth ("\" generatedAt=\"" ++ escape generatedAt.wholeText ++
      "\" sections=\"" ++ decimal document.sections.length ++ "\"/></metadata>").toList := by
    simp only [String.toList_append, isSmooth_append_iff, hdate, isSmooth_decimal, and_true]
    decide
  have hshows := ((Shows.escape options.theme).append_right hbehind).append_left hlead
  rw [← String.toList_append, ← String.toList_append] at hshows
  unfold metadataMarkup
  simpa only [String.append_assoc] using hshows

/-! ## The outline -/

/-- What a canvas shows under a key: the entries of the section, trimmed, or the slot, if the
document lacks the section. -/
def keyPieces (key : String) : List Piece :=
  match document.section? key with
  | some s => s.entries.map fun entry => .text (trim entry)
  | none => [.slot key]

/-- The texts that a canvas shows and the slots that are left in it, from top to bottom. -/
def shownPieces : List Piece :=
  (if options.includeMetadata then [.text options.theme] else []) ++
    .text document.title :: (Layout.keys document.kind).flatMap document.keyPieces

/-- What a canvas shows, each text and each slot that is left on lines of its own. -/
def outline : String :=
  String.ofList ('\n' :: lines (document.shownPieces options))

theorem toList_outline :
    (document.outline options).toList = '\n' :: lines (document.shownPieces options) :=
  String.toList_ofList

/-- The keys of the layout for which a document has no section, in the order of the layout. -/
def missingKeys : List String :=
  (Layout.keys document.kind).filter fun key => (document.section? key).isNone

theorem shows_slot {key : String} (hkey : key ∉ layoutNames) :
    Shows ((Piece.slot key).fill (document.value? options generatedAt))
      (document.keyPieces key) := by
  rw [Piece.fill, value?_of_not_mem _ _ _ hkey, keyPieces]
  cases document.section? key with
  | some s => exact Section.shows_entriesMarkup 0 s.entries
  | none => exact .slot key

/-- The blocks show what stands under their keys. -/
theorem shows_blocks (name : String) {kind : Kind} {blocks : List Block}
    (hblocks : ∀ block ∈ blocks, block ∈ Layout.blocks kind) :
    Shows ((blocks.flatMap (blockPieces (Theme.ofName name))).flatMap
        (Piece.fill (document.value? options generatedAt)))
      ((blocks.map (·.key)).flatMap document.keyPieces) := by
  induction blocks with
  | nil => exact .of_isSmooth isSmooth_nil
  | cons block blocks ih =>
      have hblock := hblocks block List.mem_cons_self
      have hslot := document.shows_slot options generatedAt (not_mem_layoutNames_of_mem hblock)
      have hrest := ih fun other hother => hblocks other (List.mem_cons_of_mem _ hother)
      obtain ⟨lead, hpieces⟩ : ∃ lead, blockPieces (Theme.ofName name) block =
        [.text lead, .slot block.key, .text "</g>\n  </g>\n"] := ⟨_, rfl⟩
      have hlead : IsSmooth lead.toList :=
        isSmooth_of_mem_blockPieces hblock (by rw [hpieces]; exact List.mem_cons_self)
      have hclosing : IsSmooth "</g>\n  </g>\n".toList := by decide
      have hshows := (hslot.append hclosing (by decide) hrest).append_left hlead
      simpa only [hpieces, List.flatMap_cons, List.flatMap_nil, List.flatMap_append, List.map_cons,
        Piece.fill, List.append_assoc, List.nil_append] using hshows

/-- In front of the blocks a canvas shows the theme, if there are metadata, and the title. -/
theorem exists_shows_opening (name : String) :
    ∃ head markup rule, IsSmooth head ∧ head ≠ [] ∧ IsSmooth rule ∧ rule ≠ [] ∧
      Shows markup ((if options.includeMetadata then [.text options.theme] else []) ++
        [.text document.title]) ∧
      (opening (Theme.ofName name)).flatMap (Piece.fill (document.value? options generatedAt)) =
        head ++ (markup ++ rule) := by
  obtain ⟨head, height, style, ground, date, rule, hopening, ⟨head', hhead⟩, date', hdate⟩ :=
    exists_opening_eq (Theme.ofName name)
  have hsmooth {content : String} (h : .text content ∈ opening (Theme.ofName name)) :
      IsSmooth content.toList := isSmooth_of_mem_opening h
  simp only [hopening, List.mem_cons, List.not_mem_nil, or_false, Piece.text.injEq, reduceCtorEq,
    false_or] at hsmooth
  have hmetadata : Shows (if options.includeMetadata then
        document.metadataMarkup options generatedAt else "").toList
      (if options.includeMetadata then [.text options.theme] else []) := by
    split
    · exact document.shows_metadataMarkup options generatedAt
    · exact .of_isSmooth isSmooth_nil
  have hground : (ground ++ "\">").toList ≠ [] := by
    rw [String.toList_append]
    exact List.append_ne_nil_of_right_ne_nil _ (by decide)
  have hshows := (hmetadata.append (hsmooth (.inr (.inr (.inr (.inl rfl))))) hground
    (Shows.escape document.title))
  have hlead : IsSmooth ((decimal options.width).toList ++ (height.toList ++
      ((decimal options.height).toList ++ (style ++ "\">\n  ").toList))) := by
    simp only [isSmooth_append_iff, isSmooth_decimal, true_and]
    exact ⟨hsmooth (.inr (.inl rfl)), hsmooth (.inr (.inr (.inl rfl)))⟩
  have hdates :
      IsSmooth (date.toList ++ ((escape generatedAt.wholeText).toList ++ rule.toList)) := by
    simp only [isSmooth_append_iff]
    exact ⟨hsmooth (.inr (.inr (.inr (.inr (.inl rfl))))),
      isSmooth_escape generatedAt.isSmooth_wholeText,
      hsmooth (.inr (.inr (.inr (.inr (.inr rfl)))))⟩
  refine ⟨head.toList, _, _, hsmooth (.inl rfl), by rw [hhead]; exact List.cons_ne_nil _ _, hdates,
    by rw [hdate]; exact List.cons_ne_nil _ _, hshows.append_left hlead, ?_⟩
  have hwidth : document.value? options generatedAt "width" = some (decimal options.width) := rfl
  have hheight : document.value? options generatedAt "height" = some (decimal options.height) := rfl
  have hdate' : document.value? options generatedAt "generatedAt" =
      some (escape generatedAt.wholeText) := rfl
  simp only [hopening, List.flatMap_cons, List.flatMap_nil, Piece.fill, hwidth, hheight, hdate',
    value?_title, value?_metadata, Option.getD_some, List.append_assoc, List.append_nil]

/-- As much is found in a canvas as in its outline. -/
theorem length_unresolved_compose (name : String) :
    (Template.unresolved (document.compose (builtin document.kind (Theme.ofName name)) options
      generatedAt)).length = (Template.unresolved (document.outline options)).length := by
  obtain ⟨head, markup, rule, hhead, hheadne, hrule, hrulene, hmarkup, hopening⟩ :=
    document.exists_shows_opening options generatedAt name
  have hblocks := document.shows_blocks options generatedAt name
    fun block (h : block ∈ Layout.blocks document.kind) => h
  have hclosing : IsSmooth "</svg>\n".toList := by decide
  have hfound := (hmarkup.append hrule hrulene hblocks).length_leftovers hhead hheadne hclosing
    (by decide)
  rw [Template.unresolved, Template.unresolved, List.length_map, List.length_map,
    toList_compose_builtin, hopening, toList_outline, shownPieces]
  simpa only [List.append_assoc, List.singleton_append, Layout.keys] using hfound

/-! ## Slots that are left -/

theorem slotTexts_keyPieces (key : String) : slotTexts (document.keyPieces key) =
    if (document.section? key).isNone then [(Piece.slotText key).toList] else [] := by
  have htexts (entries : List String) :
      slotTexts (entries.map fun entry => .text (trim entry)) = [] := by
    induction entries with
    | nil => rfl
    | cons entry entries ih => exact ih
  rw [keyPieces]
  cases document.section? key with
  | some s => exact htexts s.entries
  | none => rfl

/-- The slots in the outline are those of the sections that the document lacks. -/
theorem slotTexts_shownPieces : slotTexts (document.shownPieces options) =
    document.missingKeys.map fun key => (Piece.slotText key).toList := by
  have hkeys (keys : List String) : slotTexts (keys.flatMap document.keyPieces) =
      (keys.filter fun key => (document.section? key).isNone).map
        fun key => (Piece.slotText key).toList := by
    induction keys with
    | nil => rfl
    | cons key keys ih =>
        rw [List.flatMap_cons, slotTexts_append, slotTexts_keyPieces, ih, List.filter_cons]
        split <;> rfl
  rw [shownPieces, slotTexts_append, slotTexts, hkeys, missingKeys]
  split <;> rfl

/-- The slots that are left in a canvas are the same. -/
theorem slotTexts_settle (name : String) :
    slotTexts ((builtinPieces document.kind (Theme.ofName name)).map
      (Piece.settle (document.value? options generatedAt))) =
        document.missingKeys.map fun key => (Piece.slotText key).toList := by
  have hblocks {blocks : List Block}
      (hblocks : ∀ block ∈ blocks, block ∈ Layout.blocks document.kind) :
      slotTexts ((blocks.flatMap (blockPieces (Theme.ofName name))).map
        (Piece.settle (document.value? options generatedAt))) =
          ((blocks.map (·.key)).filter fun key => (document.section? key).isNone).map
            fun key => (Piece.slotText key).toList := by
    induction blocks with
    | nil => rfl
    | cons block blocks ih =>
        have hvalue := document.value?_of_not_mem options generatedAt
          (not_mem_layoutNames_of_mem (hblocks block List.mem_cons_self))
        have hrest := ih fun other hother => hblocks other (List.mem_cons_of_mem _ hother)
        obtain ⟨lead, hpieces⟩ : ∃ lead, blockPieces (Theme.ofName name) block =
          [.text lead, .slot block.key, .text "</g>\n  </g>\n"] := ⟨_, rfl⟩
        rw [List.flatMap_cons, List.map_append, slotTexts_append, hrest, hpieces, List.map_cons,
          List.map_cons, List.map_cons, List.map_nil, List.map_cons, List.filter_cons,
          Piece.settle, Piece.settle, Piece.settle, hvalue]
        cases document.section? block.key <;> rfl
  have hopening : slotTexts ((opening (Theme.ofName name)).map
      (Piece.settle (document.value? options generatedAt))) = [] := by
    obtain ⟨head, height, style, ground, date, rule, hopening, -⟩ :=
      exists_opening_eq (Theme.ofName name)
    have htitle := document.value?_title options generatedAt
    have hmetadata := document.value?_metadata options generatedAt
    rw [hopening]
    simp only [List.map_cons, List.map_nil, Piece.settle, htitle, hmetadata]
    rfl
  rw [builtinPieces, List.map_append, List.map_append, slotTexts_append, slotTexts_append,
    hopening, hblocks fun _ h => h]
  exact List.append_nil _

/-! ## The report -/

/-- The slots that are left are reported, in the order of the layout. -/
theorem missingKeys_sublist_unresolved (name : String) :
    (document.missingKeys.map Piece.slotText).Sublist (Template.unresolved (document.compose
      (builtin document.kind (Theme.ofName name)) options generatedAt)) := by
  have hplain := fun (piece : Piece) (hpiece : piece ∈ builtinPieces document.kind
    (Theme.ofName name)) => isPlain_of_mem_builtinPieces (Theme.isPlain_ofName name) hpiece
  have hsettled : ∀ slot, .slot slot ∈ (builtinPieces document.kind (Theme.ofName name)).map
      (Piece.settle (document.value? options generatedAt)) → (Piece.slot slot).IsPlain :=
    fun slot hslot => hplain _ (Piece.slot_mem_of_settle hslot)
  have hfound := slotTexts_sublist_leftovers hsettled [] []
  rw [slotTexts_settle, List.nil_append, List.flatMap_map] at hfound
  have hslots := hfound.map String.ofList
  rw [List.map_map] at hslots
  rw [Template.unresolved, toList_compose, builtin, fill_writeAll _ hplain]
  simpa only [Function.comp_def, String.ofList_toList, Piece.toList_write_settle,
    List.append_nil] using hslots

/-- Only keys of the layout have slots in the outline. -/
theorem isPlain_of_mem_shownPieces {key : String}
    (h : .slot key ∈ document.shownPieces options) : (Piece.slot key).IsPlain := by
  have hkey : key ∈ Layout.keys document.kind := by
    rw [shownPieces, List.mem_append, List.mem_cons, List.mem_flatMap] at h
    rcases h with h | h | ⟨other, hother, h⟩
    · split at h
      · cases List.mem_singleton.1 h
      · cases h
    · cases h
    · rw [keyPieces] at h
      cases hsection : document.section? other with
      | some s =>
          rw [hsection] at h
          obtain ⟨entry, -, heq⟩ := List.mem_map.1 h
          cases heq
      | none =>
          rw [hsection] at h
          cases List.mem_singleton.1 h
          exact hother
  obtain ⟨block, hblock, rfl⟩ := List.mem_map.1 hkey
  exact (Layout.isPlain_of_mem hblock).1

theorem missingKeys_sublist_unresolved_outline : (document.missingKeys.map Piece.slotText).Sublist
    (Template.unresolved (document.outline options)) := by
  have hfound := slotTexts_sublist_leftovers
    (fun _ hslot => document.isPlain_of_mem_shownPieces options hslot) ['\n'] ['\n']
  have hslots := hfound.map String.ofList
  rw [slotTexts_shownPieces, List.map_map] at hslots
  simp only [Function.comp_def, String.ofList_toList] at hslots
  rw [Template.unresolved, toList_outline]
  exact hslots

/-- Where no text that is shown has two such braces next to each other, the outline gives rise
to the slots only. -/
theorem unresolved_outline_of_no_pair {brace : Char} (hbrace : brace = '\x7b' ∨ brace = '\x7d')
    (h : ∀ text, .text text ∈ document.shownPieces options →
      ¬ [brace, brace] <:+: text.toList) :
    Template.unresolved (document.outline options) =
      document.missingKeys.map Piece.slotText := by
  have hfound := leftovers_lines_of_no_pair hbrace
    (fun _ hslot => document.isPlain_of_mem_shownPieces options hslot) h [] (by simp)
  rw [Template.unresolved, toList_outline, ← List.nil_append ('\n' :: _), hfound,
    slotTexts_shownPieces, List.map_map]
  simp only [Function.comp_def, String.ofList_toList]

/-- Of a text nothing is logged just if nothing is found in it. -/
theorem composeLog_eq_nil_iff {composed : String} :
    document.composeLog composed = [] ↔ Template.unresolved composed = [] := by
  constructor
  · intro hlog
    by_contra hne
    rw [document.composeLog_of_ne_nil hne] at hlog
    cases hlog
  · intro hnone
    rw [composeLog, hnone]

theorem missingKeys_eq_nil
    (h : ∀ key ∈ Layout.keys document.kind, (document.section? key).isSome = true) :
    document.missingKeys = [] := by
  rw [missingKeys, List.filter_eq_nil_iff]
  intro key hkey
  rw [Option.isNone_eq_false_iff.2 (h key hkey)]
  exact Bool.false_ne_true

/-- **The report on a built-in template is exact up to braces in what is shown.**  Of a
canvas composed from the built-in template of its kind in any theme,

* the slots of the sections that the document lacks are reported, in the order of the layout,
* and as much is reported in all as there is between double braces in the outline of the
  canvas: the texts that it shows and the slots of the sections it lacks, each on lines of
  its own,
* so the report is exact just if the outline gives rise to these slots only, and nothing is
  logged just if it gives rise to nothing,
* which is so if none of the texts has two opening braces next to each other, or none has two
  closing ones: then the slots are all that is reported, and for a document with all sections
  of its layout nothing is logged.

Nothing else matters: not the theme of the template, the size, the time, nor any other
section. -/
theorem builtin_report_is_exact_up_to_braces (name : String) :
    let composed := document.compose (builtin document.kind (Theme.ofName name)) options
      generatedAt
    let report := Template.unresolved composed
    let missing := document.missingKeys.map Piece.slotText
    let outlined := Template.unresolved (document.outline options)
    missing.Sublist report ∧ report.length = outlined.length ∧
      (report = missing ↔ outlined = missing) ∧
      (document.composeLog composed = [] ↔ outlined = []) ∧
      ∀ braces ∈ ["\x7b\x7b", "\x7d\x7d"],
        (∀ text, .text text ∈ document.shownPieces options →
          ¬ braces.toList <:+: text.toList) →
        report = missing ∧
          ((∀ key ∈ Layout.keys document.kind, (document.section? key).isSome = true) →
            document.composeLog composed = []) := by
  intro composed report missing outlined
  have hreported : missing.Sublist report :=
    document.missingKeys_sublist_unresolved options generatedAt name
  have houtlined : missing.Sublist outlined :=
    document.missingKeys_sublist_unresolved_outline options
  have hlength : report.length = outlined.length :=
    document.length_unresolved_compose options generatedAt name
  have hexact : report = missing ↔ outlined = missing := by
    constructor
    · intro h
      exact (houtlined.eq_of_length (by rw [← hlength, h])).symm
    · intro h
      exact (hreported.eq_of_length (by rw [hlength, h])).symm
  have hlog : document.composeLog composed = [] ↔ outlined = [] := by
    rw [composeLog_eq_nil_iff, ← List.length_eq_zero_iff, ← List.length_eq_zero_iff, ← hlength]
  refine ⟨hreported, hlength, hexact, hlog, fun braces hbraces htexts => ?_⟩
  have hslots : outlined = missing := by
    simp only [List.mem_cons, List.not_mem_nil, or_false] at hbraces
    rcases hbraces with rfl | rfl
    · exact document.unresolved_outline_of_no_pair options (.inl rfl) htexts
    · exact document.unresolved_outline_of_no_pair options (.inr rfl) htexts
  refine ⟨hexact.2 hslots, fun hall => hlog.2 ?_⟩
  rw [hslots]
  exact congrArg _ (document.missingKeys_eq_nil hall)

/-- A document with closing braces in its title and in one section, where another one is
missing. -/
theorem builtin_report_is_exact_up_to_braces_of_closing_braces :
    let document := (((((ofKind .valueProposition).withText "title" "x\x7d\x7d").withList
      "products_services" ["\x7d\x7d", "\x7by"]).withText "gain_creators" "\x7bz\x7d\x7d").withText
        "pain_relievers" "").withText "gains" "x" |>.withText "customer_jobs" "x"
    let composed := document.compose (builtin document.kind (Theme.ofName "modern"))
      (.ofSettings {}) ⟨0, 0⟩
    (∀ text, .text text ∈ document.shownPieces (.ofSettings {}) →
      ¬ "\x7b\x7b".toList <:+: text.toList) ∧
      Template.unresolved composed = ["\x7b\x7bpains\x7d\x7d"] := by
  intro document composed
  obtain ⟨-, -, -, -, hquiet⟩ :=
    builtin_report_is_exact_up_to_braces document (.ofSettings {}) ⟨0, 0⟩ "modern"
  have htexts : ∀ text, .text text ∈ document.shownPieces (.ofSettings {}) →
      ¬ "\x7b\x7b".toList <:+: text.toList := by
    have hall : ∀ piece ∈ document.shownPieces (.ofSettings {}),
        ¬ "\x7b\x7b".toList <:+: piece.write.toList ∨ piece = .slot "pains" := by
      decide +kernel
    intro text htext
    rcases hall _ htext with hplain | hslot
    · exact hplain
    · cases hslot
  refine ⟨htexts, (hquiet _ List.mem_cons_self htexts).1.trans ?_⟩
  decide +kernel

/-- A title that is written like a placeholder is reported, although no section is
missing. -/
theorem not_every_builtin_report_is_exact :
    let document := (Layout.keys .valueProposition).foldl (fun document key =>
      document.withText key "x") ((ofKind .valueProposition).withText "title" "\x7b\x7bx\x7d\x7d")
    let composed := document.compose (builtin document.kind (Theme.ofName "professional"))
      (.ofSettings {}) ⟨0, 0⟩
    (∀ key ∈ Layout.keys document.kind, (document.section? key).isSome = true) ∧
      Template.unresolved composed ≠ document.missingKeys.map Piece.slotText ∧
      Template.unresolved composed ≠ [] ∧ document.composeLog composed ≠ [] := by
  intro document composed
  have hlength : (Template.unresolved composed).length = 1 :=
    (document.length_unresolved_compose (.ofSettings {}) ⟨0, 0⟩ "professional").trans
      (by decide +kernel)
  have hne : Template.unresolved composed ≠ [] := by
    intro hnone
    rw [hnone] at hlength
    cases hlength
  have hall : ∀ key ∈ Layout.keys document.kind, (document.section? key).isSome = true := by
    decide +kernel
  refine ⟨hall, ?_, hne, fun hlog => hne (document.composeLog_eq_nil_iff.1 hlog)⟩
  rw [document.missingKeys_eq_nil hall]
  exact hne

end Document

end CanvasPress
