/-
# Entities in values of attributes

An entity in a value puts its text there, with white space as spaces and with
the entities in it replaced in turn.  Texts may be ten deep inside each other,
and one reference outside all texts may bring no more than 255 inside.  A left
angle bracket cannot be written by its number or its name there.
-/

import CanvasPress.Markup.DocumentType
import CanvasPress.Markup.Reference

namespace CanvasPress.Markup.Entity

/-- How deep texts may be inside each other. -/
def maxLevels : Nat := 10

/-- How many references in texts one outside them may bring. -/
def maxReferences : Nat := 255

/-- A character of a value; white space counts as a space there. -/
def plain (c : Char) : Char :=
  if isSpace c then ' ' else c

/-- The text of an entity as it is read: what is written so far, in reverse, the
name that is being read, in reverse, and how many more references there may be. -/
structure Spelling where
  written : List Char
  name : Option (List Char)
  room : Nat
deriving Inhabited

namespace Spelling

/-- The end of a reference.  `inner` spells the text of an entity. -/
def refer? (inner : Nat → List Char → Option Spelling) (entities : Entities) (x : Spelling)
    (name : List Char) : Option Spelling := do
  match ← Reference.ofChars? name.reverse with
  | .character c =>
    if c = '<' then none else some { x with written := plain c :: x.written, name := none }
  | .entity name =>
    let text ← entities.text? name
    if x.room = 0 then none
    else
      let y ← inner (x.room - 1) text
      some ⟨y.written ++ x.written, none, y.room⟩

/-- One more character of the text; `next` is the one behind it. -/
def step? (inner : Nat → List Char → Option Spelling) (entities : Entities) (x : Spelling)
    (c : Char) (next : Option Char) : Option Spelling :=
  match x.name with
  | some name => if c = ';' then x.refer? inner entities name else some { x with name := c :: name }
  | none =>
    if c = '&' then some { x with name := some [] }
    else if c = '\r' ∧ next = some '\n' then some x
    else some { x with written := plain c :: x.written }

/-- A whole text. -/
def run? (inner : Nat → List Char → Option Spelling) (entities : Entities) :
    Spelling → List Char → Option Spelling
  | x, [] => if x.name.isNone then some x else none
  | x, c :: rest => (x.step? inner entities c rest.head?).bind fun y => run? inner entities y rest

end Spelling

/-- Spell a text in which others may be so deep inside each other. -/
def spell? (entities : Entities) : (levels : Nat) → Nat → List Char → Option Spelling
  | 0, _, _ => none
  | levels + 1, room, text =>
    Spelling.run? (spell? entities levels) entities ⟨[], none, room⟩ text

/-- What a reference to an entity puts into a value: its spelling, whose text is
in reverse. -/
def inValue? (entities : Entities) (levels room : Nat) (name : List Char) : Option Spelling := do
  let text ← entities.text? name
  spell? entities levels room text

end CanvasPress.Markup.Entity
