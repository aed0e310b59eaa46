/-
# Document types

In front of the outermost element a document type may be named.  It may point
to definitions elsewhere, which are not followed, and hold definitions of its
own, of which only those of entities matter: they give names to texts.  Of two
texts with one name the first counts.
-/

import CanvasPress.Markup.Scan

namespace CanvasPress.Markup

/-! ## The declaration in front of markup

Markup may begin with a declaration of its version, its encoding and whether it
stands alone.  The version is mandatory, the order is fixed, and none of the
values matters to the reader, which has the text already decoded.
-/

namespace Declaration

/-- Skip a quoted value that holds no angle bracket. -/
def skipValue? (s : List Char) : Option (List Char) :=
  (splitQuoted? s).bind fun (value, behind) =>
    if value.all fun c => c ≠ '<' && isLegal c then some behind else none

/-- Skip an equals sign, with white space around it, and a quoted value. -/
def skipSetting? (s : List Char) : Option (List Char) :=
  match skipSpace s with
  | '=' :: rest => skipValue? (skipSpace rest)
  | _ => none

/-- Skip the white space that must separate two parts. -/
def skipBreak? (s : List Char) : Option (List Char) :=
  if s.isEmpty || (afterWord? "?>" s).isSome then some s else skipGap? s

/-- Skip a part whose name begins with a word. -/
def skipPart? (word : String) (s : List Char) : Option (List Char) :=
  (afterWord? word s).bind fun _ =>
    (QName.ofChars? (s.takeWhile isQualifiedChar)).bind fun _ =>
      (skipSetting? (s.dropWhile isQualifiedChar)).bind skipBreak?

/-- Skip a part that may be missing. -/
def skipOptional? (word : String) (s : List Char) : Option (List Char) :=
  if (afterWord? word s).isSome then skipPart? word s else some s

/-- The markup behind its declaration, if it has one. -/
def body? (s : List Char) : Option (List Char) :=
  match afterWord? "<?xml " s with
  | none => some s
  | some rest => do
    let rest ← skipPart? "version" (skipSpace rest)
    let rest ← skipOptional? "encoding" rest
    let rest ← skipOptional? "standalone" rest
    afterWord? "?>" (skipSpace rest)

end Declaration

/-! ## Entities -/

/-- Texts by their names, in the order of their definitions. -/
abbrev Entities := List (List Char × List Char)

/-- The text with a name. -/
def Entities.text? (entities : Entities) (name : List Char) : Option (List Char) :=
  (entities.find? fun entry => entry.1 == name).map (·.2)

namespace DocumentType

/-- Skip a pointer to definitions elsewhere: a quoted text behind one word, two
behind the other.  Where there is none nothing is skipped. -/
def skipPointer? (s : List Char) : Option (List Char) :=
  let skipText (s : List Char) : Option (List Char) :=
    (skipGap? s).bind fun s => (splitQuoted? s).map (·.2)
  match afterWord? "SYSTEM" s, afterWord? "PUBLIC" s with
  | some rest, _ => skipText rest
  | none, some rest => (skipText rest).bind skipText
  | none, none => some s

/-- Skip the name of a notation behind a pointer. -/
def skipNotation? (s : List Char) : Option (List Char) :=
  match afterWord? "NDATA" (skipSpace s) with
  | some rest => (skipGap? rest).bind fun rest => (splitName? rest).map (·.2)
  | none => some s

/-- What stands behind the name in the definition of an entity: its text, or a
pointer, which gives it none. -/
def splitMeaning? (isGeneral : Bool) (s : List Char) : Option (Option (List Char) × List Char) :=
  match splitQuoted? s with
  | some (text, behind) => some (some text, behind)
  | none =>
    if (afterWord? "SYSTEM" s).isSome || (afterWord? "PUBLIC" s).isSome then
      ((skipPointer? s).bind fun rest => if isGeneral then skipNotation? rest else some rest).map
        fun rest => (none, rest)
    else none

/-- The rest of the definition of an entity. -/
def splitEntity? (s : List Char) : Option (Entities × List Char) := do
  let s ← skipGap? s
  let isGeneral := s.head? != some '%'
  let s ← if isGeneral then some s else skipGap? (s.drop 1)
  let (name, s) ← splitName? s
  let s ← skipGap? s
  let (text, s) ← splitMeaning? isGeneral s
  let s ← afterWord? ">" (skipSpace s)
  return ((text.map fun text => (name, text)).toList, s)

/-- Whether a definition begins that does not matter. -/
def beginsOther (s : List Char) : Bool :=
  ["<!ELEMENT", "<!ATTLIST", "<!NOTATION"].any fun word => (afterWord? word s).isSome

/-- The entities that are defined up to the closing bracket.  There are no more
definitions than characters, so `fuel` of them is enough. -/
def splitDefinitions? : (fuel : Nat) → Entities → List Char → Option (Entities × List Char)
  | 0, _, _ => none
  | fuel + 1, found, s =>
    let s := skipSpace s
    match afterWord? "<!ENTITY" s with
    | some rest =>
      (splitEntity? rest).bind fun (more, rest) => splitDefinitions? fuel (found ++ more) rest
    | none =>
      match afterWord? "]" s with
      | some rest => (afterWord? ">" (skipSpace rest)).map fun rest => (found, rest)
      | none =>
        if beginsOther s then (skipPast? ">" s).bind (splitDefinitions? fuel found)
        else
          match afterWord? "<!--" s with
          | some rest => (skipComment? rest).bind (splitDefinitions? fuel found)
          | none =>
            match afterWord? "<?" s with
            | some rest => (skipInstruction? rest).bind (splitDefinitions? fuel found)
            | none => none

/-- The rest of a document type. -/
def split? (s : List Char) : Option (Entities × List Char) := do
  let s ← skipGap? s
  let (_, s) ← splitName? s
  let s ← skipPointer? (skipSpace s)
  match skipSpace s with
  | '>' :: rest => some ([], rest)
  | '[' :: rest => splitDefinitions? rest.length [] rest
  | _ => none

end DocumentType

/-- A mark of the byte order in front of a text does not belong to it. -/
def withoutMark : List Char → List Char
  | '\uFEFF' :: rest => rest
  | s => s

/-- Markup with the entities that are defined in front of it. -/
structure Manuscript where
  entities : Entities
  body : List Char
deriving Inhabited

/-- Split a text at the end of its document type, if it has one. -/
def Manuscript.ofChars? (s : List Char) : Option Manuscript := do
  let s ← Declaration.body? (withoutMark s)
  let front ← skipAsides? s.length s
  match afterWord? "<!DOCTYPE" front with
  | none => some ⟨[], front⟩
  | some rest => (DocumentType.split? rest).map fun (entities, body) => ⟨entities, body⟩

end CanvasPress.Markup
