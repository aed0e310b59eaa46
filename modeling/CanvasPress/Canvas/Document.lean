/-
# Canvas documents

A document has a kind, an optional reference of its caller and sections.  The
sections form a dictionary sorted by key, so equal documents are equal as
values however they were built.
-/

import CanvasPress.Canvas.Kind
import CanvasPress.Json.Basic
import CanvasPress.Text.Blank

namespace CanvasPress

/-- One section: free text, or a list of entries. -/
inductive Section where
  | text (content : String)
  | list (entries : List String)
deriving DecidableEq, Inhabited

/-- The entries to lay out; free text is one entry. -/
def Section.entries : Section → List String
  | .text content => [content]
  | .list entries => entries

/-- The content of one canvas. -/
structure Document where
  id : Option String
  kind : Kind
  /-- Sections in ascending order of their keys, each key once. -/
  sections : List (String × Section)
deriving DecidableEq, Inhabited

namespace Document

/-- The document of a kind without any section. -/
def ofKind (kind : Kind) : Document :=
  ⟨none, kind, []⟩

/-- The same document under a reference. -/
def withId (id : String) (doc : Document) : Document :=
  { doc with id := some id }

/-- Put a section in, replacing one of the same key. -/
def withSection (key : String) (value : Section) (doc : Document) : Document :=
  { doc with sections := Json.insertMember key value doc.sections }

/-- Put free text in. -/
def withText (key content : String) (doc : Document) : Document :=
  doc.withSection key (.text content)

/-- Put a list of entries in. -/
def withList (key : String) (entries : List String) (doc : Document) : Document :=
  doc.withSection key (.list entries)

/-- The section with a key. -/
def section? (doc : Document) (key : String) : Option Section :=
  (doc.sections.find? fun s => s.1 == key).map (·.2)

/-- The section `title`, when it is free text that is not blank. -/
def title? (doc : Document) : Option String :=
  match doc.section? "title" with
  | some (.text t) => if Text.isBlankText t then none else some t
  | _ => none

/-- The title, or the name of the kind for a document without one. -/
def title (doc : Document) : String :=
  doc.title?.getD doc.kind.displayName

end Document

end CanvasPress
