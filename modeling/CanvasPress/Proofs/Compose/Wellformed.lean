/-
# Canvases are well-formed

Whatever a document says, a canvas from a built-in template is well-formed markup, with one
exception that no template could mend: characters that markup may not hold, escaped or not.
So a canvas is well-formed just if the texts that it shows are free of them.
-/

import CanvasPress.Proofs.Compose.Canvas

namespace CanvasPress

open Markup Markup.Draft Template Text

/-! ## Texts that markup may hold -/

instance (s : String) : Decidable (IsLegalText s) :=
  List.decidableBAll _ s.toList

theorem Markup.Draft.isLegalText_append_iff (s s' : String) :
    IsLegalText (s ++ s') ↔ IsLegalText s ∧ IsLegalText s' := by
  rw [IsLegalText, String.toList_append]
  exact List.forall_mem_append

theorem Text.isLegal_of_isDigit {c : Char} (h : c.isDigit = true) : isLegal c = true := by
  have hbounds : '0'.toNat = 0x30 ∧ '9'.toNat = 0x39 := ⟨rfl, rfl⟩
  rw [Char.isDigit_iff_toNat, hbounds.1, hbounds.2] at h
  simp only [isLegal, Bool.or_eq_true, Bool.and_eq_true, decide_eq_true_eq, ne_eq]
  right
  omega

theorem Text.isLegalText_decimal (n : Nat) : IsLegalText (decimal n) :=
  fun _ hc => isLegal_of_isDigit (isDigit_of_mem_decimal hc)

theorem Text.isLegalText_padded (width n : Nat) : IsLegalText (padded width n) := by
  intro c hc
  rw [padded, String.toList_ofList] at hc
  rcases List.mem_append.1 hc with hzero | hdigit
  · rw [List.eq_of_mem_replicate hzero]
    decide
  · exact isLegal_of_isDigit (Nat.isDigit_of_mem_toDigits (by decide) (by decide) hdigit)

/-- Markup may hold any time. -/
theorem Timestamp.isLegalText_wholeText (t : Timestamp) : IsLegalText t.wholeText := by
  have hyear (year : Int) : IsLegalText (yearText year) := by
    rw [yearText]
    split
    · exact isLegalText_padded _ _
    · split
      all_goals
        rw [isLegalText_append_iff]
        exact ⟨by decide, isLegalText_padded _ _⟩
  rw [wholeText, textWith]
  simp only [isLegalText_append_iff, hyear, isLegalText_padded, true_and, and_true]
  decide

/-- Markup may hold the values of a theme. -/
def Theme.IsLegal (theme : Theme) : Prop :=
  IsLegalText theme.background ∧ IsLegalText theme.panel ∧ IsLegalText theme.stroke ∧
    IsLegalText theme.heading ∧ IsLegalText theme.text ∧ IsLegalText theme.accent ∧
      IsLegalText theme.fontFamily

instance (theme : Theme) : Decidable theme.IsLegal :=
  inferInstanceAs (Decidable (_ ∧ _))

theorem Theme.isLegal_ofName (name : String) : (ofName name).IsLegal := by
  have hall : ∀ theme ∈ all, theme.IsLegal := by decide +kernel
  exact hall _ (ofName_mem name)

/-- Markup may hold the keys and the titles of the blocks. -/
theorem Block.isLegalText_of_mem {kind : Kind} {block : Block} (h : block ∈ Layout.blocks kind) :
    IsLegalText block.key ∧ IsLegalText block.plainTitle := by
  have hall : ∀ block ∈ Layout.blocks kind,
      IsLegalText block.key ∧ IsLegalText block.plainTitle := by
    cases kind <;> decide +kernel
  exact hall block h

/-! ## Lists of drafts -/

namespace Markup.Draft

theorem areLegal_append_iff (drafts drafts' : List Draft) :
    AreLegal (drafts ++ drafts') ↔ AreLegal drafts ∧ AreLegal drafts' := by
  induction drafts with
  | nil => exact (and_iff_right trivial).symm
  | cons draft drafts ih => rw [List.cons_append, AreLegal, AreLegal, ih, and_assoc]

theorem areLegal_flatMap_iff {α : Type} (draftsOf : α → List Draft) (items : List α) :
    AreLegal (items.flatMap draftsOf) ↔ ∀ item ∈ items, AreLegal (draftsOf item) := by
  induction items with
  | nil => exact iff_of_true trivial fun item hitem => absurd hitem List.not_mem_nil
  | cons item items ih => rw [List.flatMap_cons, areLegal_append_iff, ih, List.forall_mem_cons]

theorem areProper_append {drafts drafts' : List Draft} (h : AreProper drafts)
    (h' : AreProper drafts') : AreProper (drafts ++ drafts') := by
  induction drafts with
  | nil => exact h'
  | cons draft drafts ih => exact ⟨h.1, ih h.2⟩

theorem areProper_flatMap {α : Type} {draftsOf : α → List Draft} {items : List α}
    (h : ∀ item ∈ items, AreProper (draftsOf item)) : AreProper (items.flatMap draftsOf) := by
  induction items with
  | nil => exact trivial
  | cons item items ih =>
      rw [List.flatMap_cons]
      exact areProper_append (h item List.mem_cons_self)
        (ih fun other hother => h other (List.mem_cons_of_mem _ hother))

/-- Attributes are proper by their names. -/
theorem areAttributes_of_names {attributes : List (String × String)} (names : List String)
    (hnames : attributes.map (·.1) = names)
    (h : (∀ name ∈ names, IsName name ∧ name ≠ "xmlns") ∧ names.Nodup) :
    AreAttributes attributes := by
  subst hnames
  exact ⟨fun a ha => h.1 a.1 (List.mem_map_of_mem ha), h.2⟩

end Markup.Draft

/-! ## Names in canvases -/

theorem Section.areProper_entryDrafts (index : Nat) (entries : List String) :
    AreProper (entryDrafts index entries) := by
  induction entries generalizing index with
  | nil => exact trivial
  | cons entry entries ih =>
      exact ⟨⟨by decide, areAttributes_of_names ["x", "y", "class"] rfl (by decide), trivial,
        trivial⟩, ih (index + 1)⟩

theorem Block.areProper_drafts (theme : Theme) (block : Block) {content : List Draft}
    (h : AreProper content) : AreProper (block.drafts theme content) := by
  have hrect : IsProper (.leaf "rect" [("x", "0"), ("y", "0"), ("width", decimal block.width),
      ("height", decimal block.height), ("rx", "6"), ("fill", theme.panel),
      ("stroke", theme.stroke), ("stroke-width", "1.5")]) :=
    ⟨by decide, areAttributes_of_names
      ["x", "y", "width", "height", "rx", "fill", "stroke", "stroke-width"] rfl (by decide)⟩
  have htitle : IsProper (.element "text" [("x", "16"), ("y", "30"), ("font-size", "17"),
      ("font-weight", "bold"), ("fill", theme.heading)] [.text block.plainTitle]) :=
    ⟨by decide, areAttributes_of_names
      ["x", "y", "font-size", "font-weight", "fill"] rfl (by decide), trivial, trivial⟩
  have hcontent : IsProper (.element "g" [("font-size", "14"), ("fill", theme.text)] content) :=
    ⟨by decide, areAttributes_of_names ["font-size", "fill"] rfl (by decide), h⟩
  exact ⟨trivial, ⟨by decide, areAttributes_of_names ["id", "transform"] rfl (by decide),
    trivial, hrect, trivial, htitle, trivial, hcontent, trivial, trivial⟩, trivial, trivial⟩

theorem Theme.areAttributes_canvasAttributes (theme : Theme) (options : RenderOptions) :
    AreAttributes (theme.canvasAttributes options) :=
  areAttributes_of_names ["width", "height", "viewBox", "preserveAspectRatio", "font-family"] rfl
    (by decide)

theorem Theme.areProper_headingDrafts (theme : Theme) (title : String) (generatedAt : Timestamp) :
    AreProper (theme.headingDrafts title generatedAt) := by
  have hrect : IsProper (.leaf "rect" [("x", "0"), ("y", "0"), ("width", decimal Layout.width),
      ("height", decimal Layout.height), ("fill", theme.background)]) :=
    ⟨by decide, areAttributes_of_names ["x", "y", "width", "height", "fill"] rfl (by decide)⟩
  have htitle : IsProper (.element "text" [("x", "20"), ("y", "44"), ("font-size", "28"),
      ("font-weight", "bold"), ("fill", theme.heading)] [.text title]) :=
    ⟨by decide, areAttributes_of_names
      ["x", "y", "font-size", "font-weight", "fill"] rfl (by decide), trivial, trivial⟩
  have hdate : IsProper (.element "text" [("x", "1180"), ("y", "44"), ("font-size", "12"),
      ("text-anchor", "end"), ("fill", theme.text)]
        [.text ("Generated " ++ generatedAt.wholeText)]) :=
    ⟨by decide, areAttributes_of_names
      ["x", "y", "font-size", "text-anchor", "fill"] rfl (by decide), trivial, trivial⟩
  have hrule : IsProper (.leaf "line" [("x1", "20"), ("y1", "62"), ("x2", "1180"), ("y2", "62"),
      ("stroke", theme.accent), ("stroke-width", "2")]) :=
    ⟨by decide, areAttributes_of_names
      ["x1", "y1", "x2", "y2", "stroke", "stroke-width"] rfl (by decide)⟩
  exact ⟨trivial, hrect, trivial, htitle, trivial, hdate, trivial, hrule, trivial, trivial⟩

namespace Document

variable (document : Document) (options : RenderOptions) (generatedAt : Timestamp)

theorem areProper_contentDrafts (key : String) : AreProper (document.contentDrafts key) := by
  rw [contentDrafts]
  split
  · exact Section.areProper_entryDrafts 0 _
  · exact ⟨trivial, trivial⟩

theorem areProper_metadataDrafts : AreProper (document.metadataDrafts options generatedAt) := by
  rw [metadataDrafts]
  split
  · exact ⟨⟨by decide, areAttributes_of_names [] rfl (by decide),
      ⟨by decide, areAttributes_of_names ["type", "theme", "generatedAt", "sections"] rfl
        (by decide)⟩, trivial⟩, trivial⟩
  · exact trivial

/-- All names in a canvas can be read back. -/
theorem areProper_canvasDrafts (theme : Theme) :
    AreProper (document.canvasDrafts options generatedAt theme) := by
  have hmetadata : AreProper (.text "\n  " :: document.metadataDrafts options generatedAt) :=
    ⟨trivial, document.areProper_metadataDrafts options generatedAt⟩
  refine areProper_append (areProper_append hmetadata (theme.areProper_headingDrafts _ _)) ?_
  exact areProper_flatMap fun block _ =>
    block.areProper_drafts theme (document.areProper_contentDrafts block.key)

end Document

/-! ## Texts in canvases -/

theorem Section.areLegal_entryDrafts_iff (index : Nat) (entries : List String) :
    AreLegal (entryDrafts index entries) ↔ ∀ entry ∈ entries, IsLegalText (trim entry) := by
  induction entries generalizing index with
  | nil => exact iff_of_true trivial fun entry hentry => absurd hentry List.not_mem_nil
  | cons entry entries ih =>
      have hbullet : IsLegalText "• " := by decide
      have hclass : IsLegalText "item" := by decide
      rw [entryDrafts, AreLegal, ih, List.forall_mem_cons]
      refine and_congr_left fun _ => ?_
      simp only [entryDraft, IsLegal, AreLegal, List.forall_mem_cons, isLegalText_append_iff,
        isLegalText_decimal, hbullet, hclass, true_and, and_true, List.not_mem_nil, false_implies,
        implies_true]

theorem Block.areLegal_drafts_iff {theme : Theme} (htheme : theme.IsLegal) {kind : Kind}
    {block : Block} (h : block ∈ Layout.blocks kind) (content : List Draft) :
    AreLegal (block.drafts theme content) ↔ AreLegal content := by
  obtain ⟨-, hpanel, hstroke, hheading, htext, -, -⟩ := htheme
  obtain ⟨hkey, htitle⟩ := Block.isLegalText_of_mem h
  have hown {s : String} (hs : IsLegalText s) : IsLegalText s ↔ True := iff_true_intro hs
  simp (disch := decide) only [Block.drafts, AreLegal, IsLegal, List.forall_mem_cons,
    isLegalText_append_iff, isLegalText_decimal, hpanel, hstroke, hheading, htext, hkey, htitle,
    hown, List.not_mem_nil, false_implies, implies_true, true_and, and_true]

theorem Theme.areLegal_canvasAttributes {theme : Theme} (htheme : theme.IsLegal)
    (options : RenderOptions) :
    ∀ a ∈ theme.canvasAttributes options, IsLegalText a.2 := by
  obtain ⟨-, -, -, -, -, -, hfont⟩ := htheme
  have hown {s : String} (hs : IsLegalText s) : IsLegalText s ↔ True := iff_true_intro hs
  simp (disch := decide) only [canvasAttributes, List.forall_mem_cons, isLegalText_decimal, hfont,
    hown, List.not_mem_nil, false_implies, implies_true, and_true]

theorem Theme.areLegal_headingDrafts_iff {theme : Theme} (htheme : theme.IsLegal) (title : String)
    (generatedAt : Timestamp) :
    AreLegal (theme.headingDrafts title generatedAt) ↔ IsLegalText title := by
  obtain ⟨hbackground, -, -, hheading, htext, haccent, -⟩ := htheme
  have hown {s : String} (hs : IsLegalText s) : IsLegalText s ↔ True := iff_true_intro hs
  simp (disch := decide) only [headingDrafts, AreLegal, Draft.IsLegal, List.forall_mem_cons,
    isLegalText_append_iff, generatedAt.isLegalText_wholeText, hbackground, hheading, htext,
    haccent, hown, List.not_mem_nil, false_implies, implies_true, true_and, and_true]

namespace Document

variable (document : Document) (options : RenderOptions) (generatedAt : Timestamp)

/-- The entries of the section with a key. -/
def entriesUnder (key : String) : List String :=
  ((document.section? key).map Section.entries).getD []

/-- The texts that a canvas shows of what it is given: the theme, if there are metadata, the
title, and the entries of the blocks, trimmed. -/
def shownTexts : List String :=
  (if options.includeMetadata then [options.theme] else []) ++
    document.title :: (Layout.keys document.kind).flatMap fun key =>
      (document.entriesUnder key).map trim

theorem areLegal_metadataDrafts_iff : AreLegal (document.metadataDrafts options generatedAt) ↔
    ∀ text ∈ (if options.includeMetadata then [options.theme] else []), IsLegalText text := by
  have hkind : IsLegalText document.kind.name := by
    cases document.kind <;> decide
  rw [metadataDrafts]
  split
  · simp only [metadataDraft, AreLegal, IsLegal, List.forall_mem_cons, isLegalText_decimal, hkind,
      generatedAt.isLegalText_wholeText, List.not_mem_nil, false_implies, implies_true, true_and,
      and_true]
  · simp [AreLegal]

theorem areLegal_contentDrafts_iff {kind : Kind} {block : Block} (h : block ∈ Layout.blocks kind) :
    AreLegal (document.contentDrafts block.key) ↔
      ∀ text ∈ (document.entriesUnder block.key).map trim, IsLegalText text := by
  rw [contentDrafts, entriesUnder, List.forall_mem_map]
  cases document.section? block.key with
  | some s => exact Section.areLegal_entryDrafts_iff 0 s.entries
  | none =>
      have hbraces : IsLegalText "\x7b\x7b" ∧ IsLegalText "\x7d\x7d" := by decide
      have hkey := (Block.isLegalText_of_mem h).1
      refine iff_of_true ⟨?_, trivial⟩ fun entry hentry => absurd hentry List.not_mem_nil
      rw [IsLegal, Piece.slotText, isLegalText_append_iff, isLegalText_append_iff]
      exact ⟨⟨hbraces.1, hkey⟩, hbraces.2⟩

/-- Markup may hold a canvas just if it may hold what the canvas shows. -/
theorem areLegal_canvasDrafts_iff {theme : Theme} (htheme : theme.IsLegal) :
    AreLegal (document.canvasDrafts options generatedAt theme) ↔
      ∀ text ∈ document.shownTexts options, IsLegalText text := by
  have hbreak : IsLegalText "\n  " := by decide
  have hblocks : AreLegal ((Layout.blocks document.kind).flatMap fun block =>
        block.drafts theme (document.contentDrafts block.key)) ↔
      ∀ text ∈ (Layout.keys document.kind).flatMap fun key =>
        (document.entriesUnder key).map trim, IsLegalText text := by
    rw [areLegal_flatMap_iff, List.forall_mem_flatMap, Layout.keys, List.forall_mem_map]
    refine forall₂_congr fun block hblock => ?_
    rw [Block.areLegal_drafts_iff htheme hblock, document.areLegal_contentDrafts_iff hblock]
  rw [canvasDrafts, areLegal_append_iff, areLegal_append_iff, AreLegal, hblocks,
    Theme.areLegal_headingDrafts_iff htheme, areLegal_metadataDrafts_iff, shownTexts,
    List.forall_mem_append, List.forall_mem_cons, IsLegal, and_iff_right hbreak, and_assoc]

/-- The tree of a canvas. -/
def canvasTree (name : String) : Node :=
  tree Drawing.space "svg" ((Theme.ofName name).canvasAttributes options)
    (document.canvasDrafts options generatedAt (Theme.ofName name))

/-- **Canvases are well-formed.**  A canvas is read just if markup may hold the texts that it
shows, and then it is read as the tree that it was composed as. -/
theorem ofText?_compose_iff (name : String) (n : Node) :
    Node.ofText? (document.compose (builtin document.kind (Theme.ofName name)) options
        generatedAt) = some n ↔
      (∀ text ∈ document.shownTexts options, IsLegalText text) ∧
        n = document.canvasTree options generatedAt name := by
  have htext := document.toList_compose_eq_page options generatedAt name
  have htheme := Theme.isLegal_ofName name
  have hname : IsName "svg" := by decide
  have hattributes := (Theme.ofName name).areAttributes_canvasAttributes options
  have hproper := document.areProper_canvasDrafts options generatedAt (Theme.ofName name)
  have hspace : IsSpace Drawing.space := ⟨by decide, by decide, by decide⟩
  have hlegal : IsLegalText (document.compose (builtin document.kind (Theme.ofName name)) options
      generatedAt) ↔ ∀ text ∈ document.shownTexts options, IsLegalText text := by
    have hdeclared : IsLegalText Drawing.space := by decide
    rw [IsLegalText, htext, isLegal_page_iff hname hattributes hproper,
      and_iff_right hdeclared, and_iff_right (Theme.areLegal_canvasAttributes htheme options),
      areLegal_canvasDrafts_iff _ _ _ htheme]
  rw [ofText?_eq_some_iff hname hattributes hproper hspace htext, hlegal, canvasTree]

end Document

end CanvasPress
