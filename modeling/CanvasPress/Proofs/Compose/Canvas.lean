/-
# Canvases are written drafts

A canvas that is composed from a built-in template is put together as text, but the text is
that of a draft: escaping leaves what the template itself writes as it is, and what a document
brings in is escaped where it becomes text or a value.  So the tree of a canvas is known
without reading it, and markup may hold the canvas just if it may hold the texts that the
canvas shows.
-/

import CanvasPress.Proofs.Compose.Completeness
import CanvasPress.Proofs.Markup.Reading

namespace CanvasPress

open Markup Template Text

/-! ## Texts that escaping leaves as they are -/

/-- A character that is written as it is. -/
def Text.isOwn (c : Char) : Bool :=
  c ≠ '&' && !isMarkup c

theorem Text.escapeList_own_cons {c : Char} (h : isOwn c = true) (s : List Char) :
    escapeList (c :: s) = c :: escapeList s := by
  simp only [isOwn, isMarkup, Bool.and_eq_true, decide_eq_true_eq, Bool.not_eq_true',
    Bool.or_eq_false_iff, decide_eq_false_iff_not] at h
  obtain ⟨hamp, ⟨⟨hlt, hgt⟩, hquote⟩, hapostrophe⟩ := h
  rw [escapeList_cons, escapeChar, if_neg hamp, if_neg hlt, if_neg hgt, if_neg hquote,
    if_neg hapostrophe]
  rfl

theorem Text.escapeList_nil : escapeList [] = [] :=
  rfl

theorem Text.escapeList_append (s s' : List Char) :
    escapeList (s ++ s') = escapeList s ++ escapeList s' :=
  List.flatMap_append

theorem Text.escapeList_eq_self {s : List Char} (h : ∀ c ∈ s, isOwn c = true) :
    escapeList s = s := by
  induction s with
  | nil => rfl
  | cons c s ih =>
      rw [escapeList_own_cons (h c List.mem_cons_self),
        ih fun d hd => h d (List.mem_cons_of_mem _ hd)]

/-- Digits are written as they are. -/
theorem Text.isOwn_of_isDigit {c : Char} (h : c.isDigit = true) : isOwn c = true := by
  have hne {d : Char} (hd : d.isDigit = false) : c ≠ d := by
    rintro rfl
    rw [h] at hd
    cases hd
  simp [isOwn, isMarkup, hne (d := '&') (by decide), hne (d := '<') (by decide),
    hne (d := '>') (by decide), hne (d := '"') (by decide), hne (d := '\'') (by decide)]

theorem Text.escapeList_decimal (n : Nat) : escapeList (decimal n).toList = (decimal n).toList :=
  escapeList_eq_self fun _ hc => isOwn_of_isDigit (isDigit_of_mem_decimal hc)

/-- The values of a theme are written as they are. -/
def Theme.IsOwn (theme : Theme) : Prop :=
  escapeList theme.background.toList = theme.background.toList ∧
    escapeList theme.panel.toList = theme.panel.toList ∧
    escapeList theme.stroke.toList = theme.stroke.toList ∧
    escapeList theme.heading.toList = theme.heading.toList ∧
    escapeList theme.text.toList = theme.text.toList ∧
    escapeList theme.accent.toList = theme.accent.toList ∧
    escapeList theme.fontFamily.toList = theme.fontFamily.toList

instance (theme : Theme) : Decidable theme.IsOwn :=
  inferInstanceAs (Decidable (_ ∧ _))

theorem Theme.isOwn_ofName (name : String) : (ofName name).IsOwn := by
  have hall : ∀ theme ∈ all, theme.IsOwn := by decide +kernel
  exact hall _ (ofName_mem name)

/-- The title of a block as a text. -/
def Block.plainTitle (block : Block) : String :=
  String.ofList (unescapeList block.title.toList)

/-- The titles and keys of the blocks stand in the templates as they are escaped. -/
theorem Block.escape_plainTitle {kind : Kind} {block : Block} (h : block ∈ Layout.blocks kind) :
    escapeList block.plainTitle.toList = block.title.toList ∧
      escapeList block.key.toList = block.key.toList := by
  have hall : ∀ block ∈ Layout.blocks kind,
      escapeList block.plainTitle.toList = block.title.toList ∧
        escapeList block.key.toList = block.key.toList := by
    cases kind <;> decide +kernel
  exact hall block h

/-! ## Drafts of the parts -/

/-- The draft of the entry at a position. -/
def Section.entryDraft (index : Nat) (entry : String) : Draft :=
  .element "text" [("x", decimal inset), ("y", decimal (baseline index).toNat),
    ("class", "item")] [.text ("• " ++ trim entry)]

/-- The drafts of entries from a position on. -/
def Section.entryDrafts : Nat → List String → List Draft
  | _, [] => []
  | index, entry :: rest => entryDraft index entry :: entryDrafts (index + 1) rest

theorem Section.write_entryDraft (index : Nat) (entry : String) :
    (entryDraft index entry).write = (entryMarkup index entry).toList := by
  unfold entryMarkup entryDraft
  simp (disch := decide) only [Draft.write, Draft.writeAll, Draft.opening, Draft.closing,
    Draft.writeAttribute, List.flatMap_cons, List.flatMap_nil, String.toList_append,
    toList_escape, escapeList_decimal, escapeList_own_cons, escapeList_nil,
    String.reduceToList, List.cons_append, List.nil_append, List.append_nil, List.append_assoc]

theorem Section.writeAll_entryDrafts (index : Nat) (entries : List String) :
    Draft.writeAll (entryDrafts index entries) = (entriesMarkup index entries).toList := by
  induction entries generalizing index with
  | nil => rfl
  | cons entry entries ih =>
      rw [entryDrafts, Draft.writeAll, ih, entriesMarkup, String.toList_append, write_entryDraft]

namespace Document

variable (document : Document) (options : RenderOptions) (generatedAt : Timestamp)

/-- The draft of the metadata. -/
def metadataDraft : Draft :=
  .element "metadata" []
    [.leaf "canvas" [("type", document.kind.name), ("theme", options.theme),
      ("generatedAt", generatedAt.wholeText), ("sections", decimal document.sections.length)]]

theorem write_metadataDraft :
    (document.metadataDraft options generatedAt).write =
      (document.metadataMarkup options generatedAt).toList := by
  have hkind : escapeList document.kind.name.toList = document.kind.name.toList := by
    cases document.kind <;> decide
  unfold metadataDraft metadataMarkup
  simp only [Draft.write, Draft.writeAll, Draft.opening, Draft.closing,
    Draft.writeAttribute, List.flatMap_cons, List.flatMap_nil, String.toList_append,
    toList_escape, hkind, escapeList_decimal,
    String.reduceToList, List.cons_append, List.nil_append, List.append_nil, List.append_assoc]

/-- What stands in the block with a key: the entries of the section, or the slot, if the
document lacks the section. -/
def contentDrafts (key : String) : List Draft :=
  match document.section? key with
  | some s => Section.entryDrafts 0 s.entries
  | none => [.text (Piece.slotText key)]

theorem writeAll_contentDrafts {kind : Kind} {block : Block} (h : block ∈ Layout.blocks kind) :
    Draft.writeAll (document.contentDrafts block.key) =
      (Piece.slot block.key).fill (document.value? options generatedAt) := by
  rw [Piece.fill, value?_of_not_mem _ _ _ (not_mem_layoutNames_of_mem h), contentDrafts]
  cases document.section? block.key with
  | some s => exact Section.writeAll_entryDrafts 0 s.entries
  | none =>
      have hkey := (Block.escape_plainTitle h).2
      simp (disch := decide) only [Draft.writeAll, Draft.write, Piece.slotText,
        String.toList_append, escapeList_append, hkey, escapeList_own_cons, escapeList_nil,
        String.reduceToList, List.cons_append, List.nil_append, List.append_nil, Option.map_none,
        Option.getD_none]

end Document

/-- The drafts of a block around its content. -/
def Block.drafts (theme : Theme) (block : Block) (content : List Draft) : List Draft :=
  [.text "  ",
    .element "g" [("id", "block-" ++ block.key),
        ("transform", "translate(" ++ decimal block.x ++ "," ++ decimal block.y ++ ")")]
      [.text "\n    ",
        .leaf "rect" [("x", "0"), ("y", "0"), ("width", decimal block.width),
          ("height", decimal block.height), ("rx", "6"), ("fill", theme.panel),
          ("stroke", theme.stroke), ("stroke-width", "1.5")],
        .text "\n    ",
        .element "text" [("x", "16"), ("y", "30"), ("font-size", "17"), ("font-weight", "bold"),
          ("fill", theme.heading)] [.text block.plainTitle],
        .text "\n    ",
        .element "g" [("font-size", "14"), ("fill", theme.text)] content,
        .text "\n  "],
    .text "\n"]

/-- The attributes of a canvas, its namespace aside. -/
def Theme.canvasAttributes (theme : Theme) (options : RenderOptions) : List (String × String) :=
  [("width", decimal options.width), ("height", decimal options.height),
    ("viewBox", "0 0 " ++ decimal Layout.width ++ " " ++ decimal Layout.height),
    ("preserveAspectRatio", "xMidYMid meet"), ("font-family", theme.fontFamily)]

/-- The drafts in front of the blocks, behind the metadata. -/
def Theme.headingDrafts (theme : Theme) (title : String) (generatedAt : Timestamp) : List Draft :=
  [.text "\n  ",
    .leaf "rect" [("x", "0"), ("y", "0"), ("width", decimal Layout.width),
      ("height", decimal Layout.height), ("fill", theme.background)],
    .text "\n  ",
    .element "text" [("x", "20"), ("y", "44"), ("font-size", "28"), ("font-weight", "bold"),
      ("fill", theme.heading)] [.text title],
    .text "\n  ",
    .element "text" [("x", "1180"), ("y", "44"), ("font-size", "12"), ("text-anchor", "end"),
      ("fill", theme.text)] [.text ("Generated " ++ generatedAt.wholeText)],
    .text "\n  ",
    .leaf "line" [("x1", "20"), ("y1", "62"), ("x2", "1180"), ("y2", "62"),
      ("stroke", theme.accent), ("stroke-width", "2")],
    .text "\n"]

set_option maxRecDepth 4000 in
theorem Block.writeAll_drafts {theme : Theme} (htheme : theme.IsOwn) {kind : Kind} {block : Block}
    (h : block ∈ Layout.blocks kind) {content : List Draft} {value? : String → Option String}
    (hcontent : Draft.writeAll content = (Piece.slot block.key).fill value?) :
    Draft.writeAll (block.drafts theme content) =
      (blockPieces theme block).flatMap (Piece.fill value?) := by
  obtain ⟨-, hpanel, hstroke, hheading, htext, -, -⟩ := htheme
  obtain ⟨htitle, hkey⟩ := Block.escape_plainTitle h
  have hslot (name : String) : (Piece.text name).fill value? = name.toList := rfl
  unfold Block.drafts blockPieces
  simp (disch := decide) only [Draft.write, Draft.writeAll, Draft.opening, Draft.closing,
    Draft.writeAttribute, List.flatMap_cons, List.flatMap_nil, String.toList_append, hcontent,
    hslot, hpanel, hstroke, hheading, htext, htitle, hkey, escapeList_append, escapeList_decimal,
    escapeList_own_cons, escapeList_nil, String.reduceToList, List.cons_append, List.nil_append,
    List.append_nil, List.append_assoc]

namespace Document

variable (document : Document) (options : RenderOptions) (generatedAt : Timestamp)

/-- The metadata, if they are asked for. -/
def metadataDrafts : List Draft :=
  if options.includeMetadata then [document.metadataDraft options generatedAt] else []

/-- The drafts inside a canvas. -/
def canvasDrafts (theme : Theme) : List Draft :=
  (.text "\n  " :: document.metadataDrafts options generatedAt ++
      theme.headingDrafts document.title generatedAt) ++
    (Layout.blocks document.kind).flatMap fun block =>
      block.drafts theme (document.contentDrafts block.key)

theorem fill_metadata : (Piece.slot "metadata").fill (document.value? options generatedAt) =
    Draft.writeAll (document.metadataDrafts options generatedAt) := by
  rw [Piece.fill, value?_metadata, metadataDrafts, Option.getD_some]
  split
  · rw [Draft.writeAll, Draft.writeAll, List.append_nil, write_metadataDraft]
  · rfl

set_option maxRecDepth 4000 in
theorem write_opening {theme : Theme} (htheme : theme.IsOwn) :
    Draft.opening "svg" (("xmlns", Drawing.space) :: theme.canvasAttributes options) ++ '>' ::
        (Draft.writeAll (.text "\n  " :: document.metadataDrafts options generatedAt ++
          theme.headingDrafts document.title generatedAt)) =
      (opening theme).flatMap (Piece.fill (document.value? options generatedAt)) := by
  obtain ⟨hbackground, -, -, hheading, htext, haccent, hfont⟩ := htheme
  have htexts (content : String) (value? : String → Option String) :
      (Piece.text content).fill value? = content.toList := rfl
  have hwidth : (Piece.slot "width").fill (document.value? options generatedAt) =
      (decimal options.width).toList := rfl
  have hheight : (Piece.slot "height").fill (document.value? options generatedAt) =
      (decimal options.height).toList := rfl
  have hdate : (Piece.slot "generatedAt").fill (document.value? options generatedAt) =
      (escape generatedAt.wholeText).toList := rfl
  have htitle : (Piece.slot "title").fill (document.value? options generatedAt) =
      escapeList document.title.toList := by
    rw [Piece.fill, value?_title, Option.getD_some, toList_escape]
  have hmetadata := document.fill_metadata options generatedAt
  unfold opening Theme.canvasAttributes Theme.headingDrafts
  simp (disch := decide) only [Draft.write, Draft.writeAll, Draft.writeAll_append, Draft.opening,
    Draft.closing, Draft.writeAttribute, Drawing.space, List.flatMap_cons, List.flatMap_nil,
    String.toList_append, htexts, hwidth, hheight, hdate, htitle, hmetadata, hbackground, hheading,
    htext, haccent, hfont, toList_escape, escapeList_append, escapeList_decimal,
    escapeList_own_cons, escapeList_nil, String.reduceToList, List.cons_append, List.nil_append,
    List.append_nil, List.append_assoc]

/-- **A canvas is a written draft.** -/
theorem toList_compose_eq_page (name : String) :
    (document.compose (builtin document.kind (Theme.ofName name)) options generatedAt).toList =
      Draft.page Drawing.space "svg" ((Theme.ofName name).canvasAttributes options)
        (document.canvasDrafts options generatedAt (Theme.ofName name)) := by
  have htheme := Theme.isOwn_ofName name
  have hopening := document.write_opening options generatedAt htheme
  have hblocks : Draft.writeAll ((Layout.blocks document.kind).flatMap fun block =>
      block.drafts (Theme.ofName name) (document.contentDrafts block.key)) =
        ((Layout.blocks document.kind).flatMap (blockPieces (Theme.ofName name))).flatMap
          (Piece.fill (document.value? options generatedAt)) := by
    rw [Draft.writeAll_flatMap, List.flatMap_assoc]
    exact List.flatMap_congr fun block hblock =>
      Block.writeAll_drafts htheme hblock
        (document.writeAll_contentDrafts options generatedAt hblock)
  rw [toList_compose_builtin, ← hopening, ← hblocks, Draft.page, canvasDrafts, Draft.write,
    Draft.writeAll_append (_ ++ _)]
  simp only [List.append_assoc, List.cons_append]
  rfl

end Document

end CanvasPress
