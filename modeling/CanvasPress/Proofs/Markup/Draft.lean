/-
# Drafts of markup

A draft is markup before it is written: text, elements with their content between two tags,
and elements without content in a single tag.  Writing escapes texts and values and nothing
else.  What a reader should make of a draft is said without reading: text is joined to the
text in front of it, an element becomes a child, and in values white space counts as a space.
-/

import CanvasPress.Markup.Entity
import CanvasPress.Markup.Scope
import CanvasPress.Proofs.Text.Escape

namespace CanvasPress.Markup

open Text

/-- Markup before it is written.  Names have no prefix. -/
inductive Draft where
  | text (content : String)
  /-- An element without content. -/
  | leaf (name : String) (attributes : List (String × String))
  | element (name : String) (attributes : List (String × String)) (children : List Draft)
deriving Inhabited

namespace Draft

/-! ## Writing -/

/-- An attribute behind a space. -/
def writeAttribute (a : String × String) : List Char :=
  ' ' :: a.1.toList ++ '=' :: '"' :: escapeList a.2.toList ++ ['"']

/-- An opening tag without the mark that ends it. -/
def opening (name : String) (attributes : List (String × String)) : List Char :=
  '<' :: name.toList ++ attributes.flatMap writeAttribute

/-- A closing tag. -/
def closing (name : String) : List Char :=
  '<' :: '/' :: name.toList ++ ['>']

mutual

/-- A draft as it is written. -/
def write : Draft → List Char
  | text content => escapeList content.toList
  | leaf name attributes => opening name attributes ++ ['/', '>']
  | element name attributes children =>
    opening name attributes ++ '>' :: (writeAll children ++ closing name)

/-- Drafts written one after the other. -/
def writeAll : List Draft → List Char
  | [] => []
  | draft :: rest => draft.write ++ writeAll rest

end

theorem writeAll_append (drafts drafts' : List Draft) :
    writeAll (drafts ++ drafts') = writeAll drafts ++ writeAll drafts' := by
  induction drafts with
  | nil => rfl
  | cons draft drafts ih =>
      rw [List.cons_append, writeAll, writeAll, ih, List.append_assoc]

theorem writeAll_flatMap {α : Type} (draftsOf : α → List Draft) (items : List α) :
    writeAll (items.flatMap draftsOf) = items.flatMap fun item => writeAll (draftsOf item) := by
  induction items with
  | nil => rfl
  | cons item items ih => rw [List.flatMap_cons, List.flatMap_cons, writeAll_append, ih]

/-! ## Names that can be read back -/

/-- A name without prefix. -/
def IsName (name : String) : Prop :=
  QName.isPart name.toList = true ∧ name.toList.all isNameChar = true

instance (name : String) : Decidable (IsName name) :=
  inferInstanceAs (Decidable (_ ∧ _))

/-- Attributes that are all different and bind no prefixes. -/
def AreAttributes (attributes : List (String × String)) : Prop :=
  (∀ a ∈ attributes, IsName a.1 ∧ a.1 ≠ "xmlns") ∧ (attributes.map (·.1)).Nodup

mutual

/-- Whether all names in a draft can be read back. -/
def IsProper : Draft → Prop
  | text _ => True
  | leaf name attributes => IsName name ∧ AreAttributes attributes
  | element name attributes children =>
    IsName name ∧ AreAttributes attributes ∧ AreProper children

/-- Whether all names in several drafts can be read back. -/
def AreProper : List Draft → Prop
  | [] => True
  | draft :: rest => draft.IsProper ∧ AreProper rest

end

/-! ## What is written -/

/-- A text that markup may hold. -/
def IsLegalText (s : String) : Prop :=
  ∀ c ∈ s.toList, isLegal c = true

mutual

/-- Whether markup may hold all texts and values in a draft. -/
def IsLegal : Draft → Prop
  | text content => IsLegalText content
  | leaf _ attributes => ∀ a ∈ attributes, IsLegalText a.2
  | element _ attributes children =>
    (∀ a ∈ attributes, IsLegalText a.2) ∧ AreLegal children

/-- Whether markup may hold all texts and values in several drafts. -/
def AreLegal : List Draft → Prop
  | [] => True
  | draft :: rest => draft.IsLegal ∧ AreLegal rest

end

/-! ## What is read -/

/-- The text of a value as it is read, behind a carriage return or not. -/
def seen : (returned : Bool) → List Char → List Char
  | _, [] => []
  | returned, c :: rest =>
    if returned && c = '\n' then seen false rest else Entity.plain c :: seen (c = '\r') rest

/-- A text without white space is seen as it is. -/
theorem seen_eq_self {s : List Char} (h : ∀ c ∈ s, isSpace c = false) (returned : Bool) :
    seen returned s = s := by
  induction s generalizing returned with
  | nil => rfl
  | cons c s ih =>
      have hspace := h c List.mem_cons_self
      have hbreak : c ≠ '\n' := by
        rintro rfl
        cases hspace
      have hkept : seen returned (c :: s) = c :: seen (c = '\r') s := by
        simp [seen, hbreak, Entity.plain, hspace]
      rw [hkept, ih fun d hd => h d (List.mem_cons_of_mem _ hd)]

/-- An attribute as it is read. -/
def readAttribute (a : String × String) : Attribute :=
  ⟨⟨none, a.1⟩, String.ofList (seen false a.2.toList)⟩

/-- The frame of an element of a draft, before its content is read. -/
def frame (scope : Scope) (name : String) (attributes : List (String × String)) : Frame :=
  ⟨⟨"", name⟩, scope, ⟨⟨scope.bound? "", name⟩, attributes.map readAttribute⟩, [], []⟩

mutual

/-- A frame in which a draft has been read. -/
def join (f : Frame) : Draft → Frame
  | text content => content.toList.foldl Frame.write f
  | leaf name attributes => f.adopt (frame f.scope name attributes).close
  | element name attributes children =>
    f.adopt (joinAll (frame f.scope name attributes) children).close

/-- A frame in which several drafts have been read. -/
def joinAll (f : Frame) : List Draft → Frame
  | [] => f
  | draft :: rest => joinAll (join f draft) rest

end

/-- The scope of a frame and its name stay as they are. -/
theorem written_foldl_write (s : List Char) (f : Frame) :
    (s.foldl Frame.write f).written = f.written ∧ (s.foldl Frame.write f).scope = f.scope ∧
      (s.foldl Frame.write f).head = f.head := by
  induction s generalizing f with
  | nil => exact ⟨rfl, rfl, rfl⟩
  | cons c s ih => exact ih (f.write c)

theorem written_join (f : Frame) (draft : Draft) :
    (join f draft).written = f.written ∧ (join f draft).scope = f.scope ∧
      (join f draft).head = f.head := by
  cases draft with
  | text content => exact written_foldl_write content.toList f
  | leaf name attributes => exact ⟨rfl, rfl, rfl⟩
  | element name attributes children => exact ⟨rfl, rfl, rfl⟩

theorem written_joinAll (f : Frame) (drafts : List Draft) :
    (joinAll f drafts).written = f.written ∧ (joinAll f drafts).scope = f.scope ∧
      (joinAll f drafts).head = f.head := by
  induction drafts generalizing f with
  | nil => exact ⟨rfl, rfl, rfl⟩
  | cons draft drafts ih =>
      obtain ⟨hwritten, hscope, hhead⟩ := ih (join f draft)
      obtain ⟨hwritten', hscope', hhead'⟩ := written_join f draft
      exact ⟨hwritten.trans hwritten', hscope.trans hscope', hhead.trans hhead'⟩

end Draft

end CanvasPress.Markup
