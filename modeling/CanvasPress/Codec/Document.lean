/-
# Documents as JSON

A section is a string or an array of strings; anything else fits no shape.
Sections are read ahead as whole values before their shape is tried.
-/

import CanvasPress.Canvas.Document
import CanvasPress.Json.Decode

namespace CanvasPress

open Json

/-- The names of the kinds. -/
def Kind.decode : Decoder Kind :=
  enumeration (Kind.all.map fun kind => (kind.name, kind))

/-- A kind as JSON. -/
def Kind.encode (kind : Kind) : Json :=
  .text kind.name

namespace Section

/-- The texts of an array that holds nothing else. -/
def textsOf? : List Json → Option (List String)
  | [] => some []
  | .text s :: rest => (textsOf? rest).map (s :: ·)
  | _ :: _ => none

/-- The section that a value has the shape of. -/
def ofJson? : Json → Option Section
  | .text content => some (.text content)
  | .array items => (textsOf? items).map .list
  | _ => none

/-- Containers open around a value that is read ahead. -/
def depthOf : Place → Nat
  | .text depth => depth
  | _ => 0

/-- A section from a draft. -/
def decode : Decoder Section := fun place draft => do
  let value ← orUnreadable (draft.close (depthOf place))
  match ofJson? value with
  | some found => return found
  | none => mismatch (.noShapeFits "SectionValue")

/-- A section as JSON. -/
def encode : Section → Json
  | .text content => .text content
  | .list entries => .array (entries.map .text)

end Section

namespace Document

/-- A document whose fields are being collected. -/
structure Partial where
  id : Option String := none
  kind : Option Kind := none
  sections : List (String × Section) := []

/-- How a document is written. -/
def shape : Shape Partial Document where
  type := "CanvasDocument"
  fields :=
    [field "id" (optional string) fun v r => { r with id := v },
      field "type" Kind.decode fun v r => { r with kind := some v },
      field "sections" (dictionary Section.decode) fun v r => { r with sections := v }]
  blank := {}
  finish := fun r =>
    match r.kind with
    | some kind => .ok ⟨r.id, kind, r.sections⟩
    | none => .error "type"

/-- A document from a draft. -/
def decode : Decoder Document :=
  shape.decode

/-- A document as JSON; the reference is left out when there is none. -/
def encode (doc : Document) : Json :=
  .object
    ((match doc.id with
      | some id => [("id", Json.text id)]
      | none => []) ++
      [("type", doc.kind.encode),
        ("sections", .object (doc.sections.map fun s => (s.1, s.2.encode)))])

end Document

end CanvasPress
