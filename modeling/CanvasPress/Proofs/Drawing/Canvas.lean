/-
# Canvases as drawings

A canvas that can be read is a drawing of the size that was asked for, as long as it has no
more elements than drawings may have.  How many it has is counted on its draft: five of the
canvas itself, four of each block, and one for each entry that is shown.
-/

import CanvasPress.Drawing.Scene
import CanvasPress.Proofs.Compose.Wellformed
import CanvasPress.Proofs.Drawing.Expansion
import CanvasPress.Proofs.Drawing.Number

namespace CanvasPress.Drawing

open Markup Markup.Draft Text

/-! ## Counting on drafts -/

theorem countAll_append (nodes nodes' : List Node) :
    countAll (nodes ++ nodes') = countAll nodes + countAll nodes' := by
  induction nodes with
  | nil => exact (Nat.zero_add _).symm
  | cons n nodes ih => rw [List.cons_append, countAll, countAll, ih, Nat.add_assoc]

theorem countAll_reverse (nodes : List Node) : countAll nodes.reverse = countAll nodes := by
  induction nodes with
  | nil => rfl
  | cons n nodes ih =>
      rw [List.reverse_cons, countAll_append, ih, countAll, countAll, countAll, Nat.add_zero,
        Nat.add_comm]

/-- Text behind the last child counts nothing. -/
theorem countAll_content (f : Frame) : countAll f.content = countAll f.children := by
  rw [Frame.content]
  split
  · rfl
  · exact Nat.zero_add _

theorem children_foldl_write (s : List Char) (f : Frame) :
    (s.foldl Frame.write f).children = f.children := by
  induction s generalizing f with
  | nil => rfl
  | cons c s ih => exact ih (f.write c)

mutual

/-- How many elements a drawing has from a draft. -/
def countDraft : Draft → Nat
  | .text _ => 0
  | .leaf name _ => countFor (Tag.ofName? ⟨some space, name⟩) 0
  | .element name _ children => countFor (Tag.ofName? ⟨some space, name⟩) (countDrafts children)

/-- How many elements a drawing has from several drafts. -/
def countDrafts : List Draft → Nat
  | [] => 0
  | draft :: rest => countDraft draft + countDrafts rest

end

mutual

/-- A frame has gained the elements of a draft. -/
theorem countAll_join : ∀ (draft : Draft) {f : Frame}, f.scope.bound? "" = some space →
    countAll (join f draft).children = countAll f.children + countDraft draft
  | .text content, f, _ => by
      rw [join, children_foldl_write, countDraft, Nat.add_zero]
  | .leaf name attributes, f, hscope => by
      have hadopted : (join f (.leaf name attributes)).children =
          (frame f.scope name attributes).close :: f.content :=
        rfl
      have hclosed : count (frame f.scope name attributes).close =
          countFor (Tag.ofName? ⟨some space, name⟩) 0 := by
        rw [← hscope]
        rfl
      rw [hadopted, countAll, hclosed, countAll_content, Nat.add_comm, countDraft]
  | .element name attributes children, f, hscope => by
      have hadopted : (join f (.element name attributes children)).children =
          (joinAll (frame f.scope name attributes) children).close :: f.content :=
        rfl
      have hinside := countAll_joinAll children (f := frame f.scope name attributes) hscope
      have hclosed : count (joinAll (frame f.scope name attributes) children).close =
          countFor (Tag.ofName? ⟨some space, name⟩) (countDrafts children) := by
        rw [Frame.close, count, countAll_reverse, countAll_content, hinside,
          (written_joinAll _ children).2.2, ← hscope]
        simp [frame, countAll]
      rw [hadopted, countAll, hclosed, countAll_content, Nat.add_comm, countDraft]

theorem countAll_joinAll : ∀ (drafts : List Draft) {f : Frame}, f.scope.bound? "" = some space →
    countAll (joinAll f drafts).children = countAll f.children + countDrafts drafts
  | [], f, _ => rfl
  | draft :: drafts, f, hscope => by
      have hscope' : (join f draft).scope.bound? "" = some space := by
        rw [(written_join f draft).2.1, hscope]
      rw [joinAll, countAll_joinAll drafts hscope', countAll_join draft hscope, countDrafts,
        Nat.add_assoc]

end

/-- A draft with at most so many elements inside each other, none of which changes what others
are. -/
def IsPlainDraft : (levels : Nat) → Draft → Prop
  | _, .text _ => True
  | 0, _ => False
  | _ + 1, .leaf name _ => name ∉ activeNames
  | levels + 1, .element name _ children =>
    name ∉ activeNames ∧ ∀ child ∈ children, IsPlainDraft levels child

/-- Text behind the last child is plain. -/
theorem isPlain_content {levels : Nat} {f : Frame}
    (h : ∀ n ∈ f.children, IsPlain (levels + 1) n) : ∀ n ∈ f.content, IsPlain (levels + 1) n := by
  rw [Frame.content]
  split
  · exact h
  · exact List.forall_mem_cons.2 ⟨trivial, h⟩

/-- What is read of plain drafts is plain. -/
theorem isPlain_joinAll {levels : Nat} {drafts : List Draft} {f : Frame}
    (hdrafts : ∀ draft ∈ drafts, IsPlainDraft levels draft)
    (hf : ∀ n ∈ f.children, IsPlain (levels + 1) n) :
    ∀ n ∈ (joinAll f drafts).children, IsPlain (levels + 1) n := by
  induction levels generalizing drafts f with
  | zero =>
      induction drafts generalizing f with
      | nil => exact hf
      | cons draft drafts ih =>
          refine ih (fun other hother => hdrafts other (List.mem_cons_of_mem _ hother)) ?_
          cases draft with
          | text content =>
              rw [join, children_foldl_write]
              exact hf
          | _ => exact absurd (hdrafts _ List.mem_cons_self) id
  | succ levels ihlevels =>
      induction drafts generalizing f with
      | nil => exact hf
      | cons draft drafts ih =>
          refine ih (fun other hother => hdrafts other (List.mem_cons_of_mem _ hother)) ?_
          have hdraft := hdrafts draft List.mem_cons_self
          cases draft with
          | text content =>
              rw [join, children_foldl_write]
              exact hf
          | leaf name attributes =>
              exact List.forall_mem_cons.2
                ⟨⟨hdraft, fun child hchild => absurd hchild List.not_mem_nil⟩, isPlain_content hf⟩
          | element name attributes children =>
              have hinside := ihlevels (f := frame f.scope name attributes) hdraft.2
                fun n hn => absurd hn List.not_mem_nil
              have hhead := (written_joinAll (frame f.scope name attributes) children).2.2
              refine List.forall_mem_cons.2 ⟨⟨?_, fun child hchild => ?_⟩, isPlain_content hf⟩
              · rw [hhead]
                exact hdraft.1
              · exact isPlain_content hinside child (List.mem_reverse.1 hchild)

/-! ## Lists of drafts -/

theorem countDrafts_append (drafts drafts' : List Draft) :
    countDrafts (drafts ++ drafts') = countDrafts drafts + countDrafts drafts' := by
  induction drafts with
  | nil => exact (Nat.zero_add _).symm
  | cons draft drafts ih => rw [List.cons_append, countDrafts, countDrafts, ih, Nat.add_assoc]

theorem countDrafts_flatMap {α : Type} (draftsOf : α → List Draft) (items : List α) :
    countDrafts (items.flatMap draftsOf) =
      (items.map fun item => countDrafts (draftsOf item)).sum := by
  induction items with
  | nil => rfl
  | cons item items ih =>
      rw [List.flatMap_cons, countDrafts_append, ih, List.map_cons, List.sum_cons]

end CanvasPress.Drawing

namespace CanvasPress

open Markup Markup.Draft Drawing Text

/-! ## Elements of canvases -/

theorem Section.countDrafts_entryDrafts (index : Nat) (entries : List String) :
    countDrafts (entryDrafts index entries) = entries.length := by
  induction entries generalizing index with
  | nil => rfl
  | cons entry entries ih =>
      have htag : Tag.ofName? ⟨some space, "text"⟩ = some .text := by decide
      have hone : countDraft (entryDraft index entry) = 1 := by
        rw [entryDraft, countDraft, htag]
        rfl
      rw [entryDrafts, countDrafts, hone, ih, List.length_cons, Nat.add_comm]

namespace Document

variable (document : Document) (options : RenderOptions) (generatedAt : Timestamp)

theorem countDrafts_contentDrafts (key : String) :
    countDrafts (document.contentDrafts key) = (document.entriesUnder key).length := by
  rw [contentDrafts, entriesUnder]
  cases document.section? key with
  | some s => exact Section.countDrafts_entryDrafts 0 s.entries
  | none => rfl

end Document

theorem Section.isPlain_entryDrafts (index : Nat) (entries : List String) :
    ∀ draft ∈ entryDrafts index entries, IsPlainDraft 1 draft := by
  induction entries generalizing index with
  | nil => exact fun draft hdraft => absurd hdraft List.not_mem_nil
  | cons entry entries ih =>
      exact List.forall_mem_cons.2 ⟨⟨by decide, List.forall_mem_singleton.2 trivial⟩,
        ih (index + 1)⟩

theorem Document.isPlain_contentDrafts (document : Document) (key : String) :
    ∀ draft ∈ document.contentDrafts key, IsPlainDraft 1 draft := by
  rw [contentDrafts]
  cases document.section? key with
  | some s => exact Section.isPlain_entryDrafts 0 s.entries
  | none => exact List.forall_mem_singleton.2 trivial

/-- A block has a group, a panel, a title and a group of its content. -/
theorem Block.countDrafts_drafts (theme : Theme) (block : Block) (content : List Draft) :
    countDrafts (block.drafts theme content) = 4 + countDrafts content := by
  have hgroup : Tag.ofName? ⟨some space, "g"⟩ = some .group := by decide
  have hrect : Tag.ofName? ⟨some space, "rect"⟩ = some .rect := by decide
  have htext : Tag.ofName? ⟨some space, "text"⟩ = some .text := by decide
  simp only [Block.drafts, countDrafts, countDraft, hgroup, hrect, htext, countFor]
  omega

theorem Block.isPlain_drafts (theme : Theme) (block : Block) {content : List Draft}
    (h : ∀ draft ∈ content, IsPlainDraft 1 draft) :
    ∀ draft ∈ block.drafts theme content, IsPlainDraft 3 draft := by
  have hnames : "g" ∉ activeNames ∧ "rect" ∉ activeNames ∧ "text" ∉ activeNames := by decide
  simp only [Block.drafts, List.forall_mem_cons, List.not_mem_nil, false_implies, implies_true,
    and_true]
  refine ⟨trivial, ⟨hnames.1, ?_⟩, trivial⟩
  simp only [List.forall_mem_cons, List.not_mem_nil, false_implies, implies_true, and_true]
  exact ⟨trivial, hnames.2.1, trivial, ⟨hnames.2.2, List.forall_mem_singleton.2 trivial⟩, trivial,
    ⟨hnames.1, h⟩, trivial⟩

/-- In front of the blocks a canvas has a ground, a title, a date and a rule. -/
theorem Theme.countDrafts_headingDrafts (theme : Theme) (title : String)
    (generatedAt : Timestamp) : countDrafts (theme.headingDrafts title generatedAt) = 4 := by
  have hrect : Tag.ofName? ⟨some space, "rect"⟩ = some .rect := by decide
  have htext : Tag.ofName? ⟨some space, "text"⟩ = some .text := by decide
  have hline : Tag.ofName? ⟨some space, "line"⟩ = some .line := by decide
  simp only [headingDrafts, countDrafts, countDraft, hrect, htext, hline, countFor]

theorem Theme.isPlain_headingDrafts (theme : Theme) (title : String) (generatedAt : Timestamp) :
    ∀ draft ∈ theme.headingDrafts title generatedAt, IsPlainDraft 3 draft := by
  have hnames : "rect" ∉ activeNames ∧ "text" ∉ activeNames ∧ "line" ∉ activeNames := by decide
  simp only [headingDrafts, List.forall_mem_cons, List.not_mem_nil, false_implies, implies_true,
    and_true]
  exact ⟨trivial, hnames.1, trivial, ⟨hnames.2.1, List.forall_mem_singleton.2 trivial⟩, trivial,
    ⟨hnames.2.1, List.forall_mem_singleton.2 trivial⟩, trivial, hnames.2.2, trivial⟩

namespace Document

variable (document : Document) (options : RenderOptions) (generatedAt : Timestamp)

/-- How many elements the drawing of a canvas has. -/
def elementCount : Nat :=
  5 + ((Layout.keys document.kind).map fun key => 4 + (document.entriesUnder key).length).sum

/-- No drawing knows the metadata. -/
theorem countDrafts_metadataDrafts :
    countDrafts (document.metadataDrafts options generatedAt) = 0 := by
  have hmetadata : Tag.ofName? ⟨some space, "metadata"⟩ = none := by decide
  rw [metadataDrafts]
  split
  · rw [countDrafts, metadataDraft, countDraft, hmetadata]
    rfl
  · rfl

theorem isPlain_metadataDrafts :
    ∀ draft ∈ document.metadataDrafts options generatedAt, IsPlainDraft 3 draft := by
  have hnames : "metadata" ∉ activeNames ∧ "canvas" ∉ activeNames := by decide
  rw [metadataDrafts]
  split
  · exact List.forall_mem_singleton.2 ⟨hnames.1, List.forall_mem_singleton.2 hnames.2⟩
  · exact fun draft hdraft => absurd hdraft List.not_mem_nil

theorem countDrafts_canvasDrafts (theme : Theme) :
    1 + countDrafts (document.canvasDrafts options generatedAt theme) = document.elementCount := by
  have hblocks : (Layout.blocks document.kind).map (fun block =>
      countDrafts (block.drafts theme (document.contentDrafts block.key))) =
        (Layout.keys document.kind).map fun key => 4 + (document.entriesUnder key).length := by
    rw [Layout.keys, List.map_map]
    refine List.map_congr_left fun block _ => ?_
    rw [Block.countDrafts_drafts, countDrafts_contentDrafts]
    rfl
  rw [canvasDrafts, countDrafts_append, countDrafts_append, countDrafts_flatMap, hblocks,
    countDrafts, countDraft, countDrafts_metadataDrafts, Theme.countDrafts_headingDrafts,
    elementCount]
  omega

theorem isPlain_canvasDrafts (theme : Theme) :
    ∀ draft ∈ document.canvasDrafts options generatedAt theme, IsPlainDraft 3 draft := by
  rw [canvasDrafts, List.forall_mem_append, List.forall_mem_append, List.forall_mem_cons,
    List.forall_mem_flatMap]
  exact ⟨⟨⟨trivial, document.isPlain_metadataDrafts options generatedAt⟩,
    theme.isPlain_headingDrafts _ _⟩, fun block _ =>
      block.isPlain_drafts theme (document.isPlain_contentDrafts block.key)⟩

/-! ## Scenes of canvases -/

/-- The outermost tag of a canvas. -/
def canvasHead (name : String) : Head :=
  ⟨⟨some space, "svg"⟩, ((Theme.ofName name).canvasAttributes options).map readAttribute⟩

/-- Digits are seen as they are. -/
theorem readAttribute_decimal (name : String) (n : Nat) :
    readAttribute (name, decimal n) = ⟨⟨none, name⟩, decimal n⟩ := by
  have hspace : ∀ c ∈ (decimal n).toList, isSpace c = false := by
    intro c hc
    have hdigit := isDigit_of_mem_decimal hc
    have hne {d : Char} (hd : d.isDigit = false) : c ≠ d := by
      rintro rfl
      rw [hdigit] at hd
      cases hd
    simp [isSpace, hne (d := ' ') (by decide), hne (d := '\n') (by decide),
      hne (d := '\t') (by decide), hne (d := '\r') (by decide)]
  rw [readAttribute, seen_eq_self hspace, String.ofList_toList]

/-- The size of a canvas is what was asked for. -/
theorem rootSettings_canvasHead (name : String) : ∃ rest,
    rootSettings (canvasHead options name) =
      ⟨"width", decimal options.width, false⟩ :: ⟨"height", decimal options.height, false⟩ ::
        rest := by
  have hsetting (base value : String) (hbase : base = "width" ∨ base = "height") :
      (Setting.ofAttribute? ⟨⟨none, base⟩, value⟩).bind (Expansion.resolved? []) =
        some ⟨base, value, false⟩ := by
    have hfixed : Property.canInherit base = false := by
      rcases hbase with rfl | rfl <;> decide
    have hmade : Setting.ofAttribute? ⟨⟨none, base⟩, value⟩ = some ⟨base, value, false⟩ := by
      rcases hbase with rfl | rfl <;> rfl
    rw [hmade, Option.bind_some, Expansion.resolved?, if_neg fun h => ?_]
    rw [hfixed] at h
    cases h.2
  obtain ⟨rest, hattributes⟩ : ∃ rest, (canvasHead options name).attributes =
      readAttribute ("width", decimal options.width) ::
        readAttribute ("height", decimal options.height) :: rest :=
    ⟨_, rfl⟩
  have hwidth := hsetting "width" (decimal options.width) (.inl rfl)
  have hheight := hsetting "height" (decimal options.height) (.inr rfl)
  rw [rootSettings, List.filterMap_filterMap, hattributes, readAttribute_decimal,
    readAttribute_decimal]
  simp only [List.filterMap_cons, hwidth, hheight]
  exact ⟨_, rfl⟩

variable {document options}

/-- An outermost element with the size of a canvas describes a drawing. -/
theorem exists_ofElement?_canvas (name : String)
    (hwidth : 0 < options.width ∧ options.width < 2 ^ 24)
    (hheight : 0 < options.height ∧ options.height < 2 ^ 24) (inside : List Element) :
    ∃ scene, Scene.ofElement? (.node .svg (rootSettings (canvasHead options name)) inside) =
      some scene := by
  obtain ⟨rest, hsettings⟩ := rootSettings_canvasHead options name
  rw [hsettings]
  have hlength (b : Branch) (view : Box) (side : String) (n : Nat)
      (hside : b.attribute? side = some (decimal n)) (hn : n < 2 ^ 24) :
      b.lengthOr view side .whole = .ofRat n := by
    have hread : Length.ofText? (decimal n) = some ⟨n, .none⟩ :=
      ofText?_decimal (hn.trans (by decide))
    rw [Branch.lengthOr, Branch.length?, hside, Option.bind_some, hread]
    rfl
  generalize he : Element.node .svg (_ :: _ :: rest) inside = e
  have hw (view : Box) : (Branch.mk e []).lengthOr view "width" .whole = .ofRat options.width :=
    hlength _ view "width" options.width (by rw [← he]; rfl) hwidth.2
  have hh (view : Box) : (Branch.mk e []).lengthOr view "height" .whole = .ofRat options.height :=
    hlength _ view "height" options.height (by rw [← he]; rfl) hheight.2
  simp only [Scene.ofElement?, hw, hh, isExtent_natCast hwidth.1 hwidth.2,
    isExtent_natCast hheight.1 hheight.2, Bool.and_self, if_true]
  exact ⟨_, rfl⟩

/-- **A canvas that can be read is a drawing**, if it has not too many elements, whatever size in
pixels it has. -/
theorem exists_scene_iff (name : String) (hwidth : 0 < options.width ∧ options.width < 2 ^ 24)
    (hheight : 0 < options.height ∧ options.height < 2 ^ 24) :
    (∃ scene, Scene.ofText? (document.compose (Template.builtin document.kind (Theme.ofName name))
        options generatedAt) = some scene) ↔
      (∀ text ∈ document.shownTexts options, IsLegalText text) ∧
        document.elementCount ≤ Expansion.maxElements := by
  have hread := document.ofText?_compose_iff options generatedAt name
  let inside := joinAll (frame [("", space)] "svg" ((Theme.ofName name).canvasAttributes options))
    (document.canvasDrafts options generatedAt (Theme.ofName name))
  have htree : document.canvasTree options generatedAt name =
      .element (canvasHead options name) inside.content.reverse := by
    rw [canvasTree, tree, Frame.close, (written_joinAll _ _).2.2]
    rfl
  have hcount : 1 + countAll inside.content.reverse = document.elementCount := by
    rw [countAll_reverse, countAll_content, countAll_joinAll _ rfl,
      ← document.countDrafts_canvasDrafts options generatedAt (Theme.ofName name)]
    simp [frame, countAll]
  have hplain : IsPlain 5 (.element (canvasHead options name) inside.content.reverse) := by
    have hname : "svg" ∉ activeNames := by decide
    refine ⟨hname, fun child hchild => ?_⟩
    have hdrafts := document.isPlain_canvasDrafts options generatedAt (Theme.ofName name)
    exact isPlain_content (isPlain_joinAll hdrafts fun n hn => absurd hn List.not_mem_nil) child
      (List.mem_reverse.1 hchild)
  have hstyle : (canvasHead options name).attribute? "style" = none := rfl
  obtain ⟨hfits, hlarge⟩ := ofRoot?_of_isPlain hplain (by decide) rfl hstyle
  constructor
  · rintro ⟨scene, hscene⟩
    obtain ⟨node, hnode, hrest⟩ := Option.bind_eq_some_iff.1 hscene
    obtain ⟨hlegal, rfl⟩ := (hread node).1 hnode
    refine ⟨hlegal, Nat.le_of_not_lt fun hmore => ?_⟩
    rw [htree, hlarge (by omega)] at hrest
    cases hrest
  · rintro ⟨hlegal, hless⟩
    have hnode := (hread _).2 ⟨hlegal, rfl⟩
    obtain ⟨elements, hroot⟩ := hfits (by omega)
    rw [Scene.ofText?, hnode, htree]
    simp only [Option.bind_eq_bind, Option.bind_some, hroot]
    exact exists_ofElement?_canvas name hwidth hheight elements

end Document

end CanvasPress
