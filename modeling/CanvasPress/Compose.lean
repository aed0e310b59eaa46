/-
# Composition

Composing fills the placeholders of a template with the content of a document:
one fragment of markup for each section, and five layout values, which win over
sections of the same name.  Composition never fails; placeholders without a
value stay as they are and are reported.
-/

import CanvasPress.Calendar.Timestamp
import CanvasPress.Canvas.Document
import CanvasPress.Log
import CanvasPress.Options
import CanvasPress.Template.Placeholder
import CanvasPress.Text.Escape

namespace CanvasPress

open Text

/-- Left inset of entries, relative to their block. -/
def Section.inset : Nat := 16

/-- Baseline of the first entry, relative to its block. -/
def Section.firstLine : UInt32 := 56

/-- Distance between the baselines of consecutive entries. -/
def Section.lineStep : UInt32 := 22

/-- Baseline of the entry at a position, computed in 32 bits. -/
def Section.baseline (index : Nat) : UInt32 :=
  firstLine + index.toUInt32 * lineStep

/-- The markup of the entry at a position. -/
def Section.entryMarkup (index : Nat) (entry : String) : String :=
  "<text x=\"" ++ decimal inset ++ "\" y=\"" ++ decimal (baseline index).toNat ++
    "\" class=\"item\">• " ++ escape (trim entry) ++ "</text>"

/-- Entries from a position on, one element for each. -/
def Section.entriesMarkup : Nat → List String → String
  | _, [] => ""
  | index, entry :: rest => entryMarkup index entry ++ entriesMarkup (index + 1) rest

/-- The markup of a section. -/
def Section.markup (s : Section) : String :=
  entriesMarkup 0 s.entries

namespace Document

/-- The metadata element of a rendering. -/
def metadataMarkup (doc : Document) (options : RenderOptions) (generatedAt : Timestamp) : String :=
  "<metadata><canvas type=\"" ++ doc.kind.name ++ "\" theme=\"" ++ escape options.theme ++
    "\" generatedAt=\"" ++ escape generatedAt.wholeText ++ "\" sections=\"" ++
    decimal doc.sections.length ++ "\"/></metadata>"

/-- The values that belong to the layout. -/
def layoutValues (doc : Document) (options : RenderOptions) (generatedAt : Timestamp) :
    List (String × String) :=
  [("width", decimal options.width),
    ("height", decimal options.height),
    ("title", escape doc.title),
    ("generatedAt", escape generatedAt.wholeText),
    ("metadata",
      if options.includeMetadata then doc.metadataMarkup options generatedAt else "")]

/-- Everything that placeholders stand for, sorted by name. -/
def values (doc : Document) (options : RenderOptions) (generatedAt : Timestamp) :
    List (String × String) :=
  (doc.layoutValues options generatedAt).foldl
    (fun vars v => Json.insertMember v.1 v.2 vars)
    (doc.sections.map fun s => (s.1, s.2.markup))

/-- The value of a name in a dictionary. -/
def lookup (vars : List (String × String)) (name : String) : Option String :=
  (vars.find? fun v => v.1 == name).map (·.2)

/-- The template with every known placeholder filled. -/
def compose (doc : Document) (template : String) (options : RenderOptions)
    (generatedAt : Timestamp) : String :=
  String.ofList (Template.fill (lookup (doc.values options generatedAt)) template.toList)

/-- What is reported about a composed text: a warning if it still holds
placeholders. -/
def composeLog (doc : Document) (composed : String) : List LogLine :=
  match Template.unresolved composed with
  | [] => []
  | found =>
    [⟨.warn, doc.kind.name ++ " canvas has " ++ decimal found.length ++
      " unresolved placeholder(s): " ++ String.intercalate ", " found⟩]

end Document

end CanvasPress
