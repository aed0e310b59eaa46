/-
# Reading markup

Markup is read one character at a time: `Progress` is what has been read, and a
step is what one more character makes of it, if the markup can still become
well-formed.  So reading a text and then another is reading both in one go, and
a statement about a whole text is put together from its parts.

Well-formed markup has one outermost element; tags nest; attributes are quoted,
separated and named once; names have known prefixes; references mean legal
characters or entities; `]]>` stands only where it ends something; comments hold
no double hyphen.  A reference to an entity between tags is read as its text,
which must be balanced in itself; texts may be ten deep inside each other.
-/

import CanvasPress.Markup.Entity
import CanvasPress.Markup.Scope

namespace CanvasPress.Markup

/-- Where in a text the reader stands.  Names and values that are being read are
in reverse. -/
inductive Place where
  /-- Between tags, behind so many closing brackets, two at most. -/
  | text (brackets : Nat)
  /-- Behind an ampersand between tags. -/
  | reference (written : List Char)
  /-- Behind an opening angle bracket. -/
  | angle
  /-- Behind `<!`, before it is clear what begins. -/
  | bang (written : List Char)
  /-- In a comment, behind so many hyphens, two at most. -/
  | comment (hyphens : Nat)
  /-- In literal text, behind so many closing brackets. -/
  | literal (brackets : Nat)
  /-- In the name of an instruction. -/
  | target (written : List Char)
  /-- In the body of an instruction, behind a question mark or not. -/
  | instruction (mark : Bool)
  /-- In the name of an opening tag. -/
  | name (written : List Char)
  /-- In an opening tag between its parts, behind white space or not. -/
  | between (tag : Tag) (spaced : Bool)
  /-- In the name of an attribute. -/
  | key (tag : Tag) (written : List Char)
  /-- In front of the equals sign of an attribute. -/
  | equals (tag : Tag) (key : QName)
  /-- In front of the value of an attribute. -/
  | quote (tag : Tag) (key : QName)
  /-- In the value of an attribute, behind a carriage return or not. -/
  | value (tag : Tag) (key : QName) (quote : Char) (written : List Char) (returned : Bool)
  /-- Behind an ampersand in the value of an attribute. -/
  | valueReference (tag : Tag) (key : QName) (quote : Char) (written : List Char)
      (reference : List Char)
  /-- Behind the slash that ends a tag without content. -/
  | slash (tag : Tag)
  /-- In the name of a closing tag. -/
  | closing (written : List Char)
  /-- Behind the name of a closing tag. -/
  | closed (name : QName)

/-- What has been read: the place, the open elements, innermost first, and the
outermost element when it is complete. -/
structure Progress where
  place : Place
  stack : List Frame
  root : Option Node
  /-- How many of the open elements were opened in the text that is read. -/
  opened : Nat
  /-- How deep texts of entities may still be inside the text that is read. -/
  levels : Nat
  /-- How many references in texts of entities there may still be. -/
  room : Nat

namespace Progress

/-- Nothing has been read. -/
def start : Progress :=
  ⟨.text 0, [], none, 0, Entity.maxLevels, Entity.maxReferences⟩

/-- Go on at another place. -/
def goTo (p : Progress) (place : Place) : Progress :=
  { p with place := place }

/-- The prefixes in force. -/
def scope (p : Progress) : Scope :=
  match p.stack with
  | [] => []
  | frame :: _ => frame.scope

/-- Whether the text that is read is the text of an entity. -/
def isInside (p : Progress) : Bool :=
  p.levels < Entity.maxLevels

/-- The references that are left behind one more. -/
def spend? (p : Progress) : Option Nat :=
  if !p.isInside then some Entity.maxReferences
  else if p.room = 0 then none
  else some (p.room - 1)

/-- Write a character between tags and go on there. -/
def write (p : Progress) (c : Char) (place : Place) : Progress :=
  match p.stack with
  | [] => p.goTo place
  | frame :: rest => { p with place := place, stack := frame.write c :: rest }

/-- A complete comment or instruction takes its place among the children. -/
def remark (p : Progress) : Progress :=
  match p.stack with
  | [] => p.goTo (.text 0)
  | frame :: rest => { p with place := .text 0, stack := frame.adopt .aside :: rest }

/-- A complete element joins the innermost open one, or is the outermost. -/
def settle (p : Progress) (stack : List Frame) (n : Node) : Progress :=
  match stack with
  | frame :: rest => { p with place := .text 0, stack := frame.adopt n :: rest }
  | [] => { p with place := .text 0, stack := [], root := some n }

/-- The opening tag of an element with content is complete. -/
def open? (p : Progress) (tag : Tag) : Option Progress :=
  (Frame.ofTag? p.scope tag).map fun frame =>
    { p with place := .text 0, stack := frame :: p.stack, opened := p.opened + 1 }

/-- The tag of an element without content is complete. -/
def empty? (p : Progress) (tag : Tag) : Option Progress :=
  (Frame.ofTag? p.scope tag).map fun frame => p.settle p.stack frame.close

/-- A closing tag is complete; it must name the innermost open element, which
must have been opened in the same text. -/
def close? (p : Progress) (name : QName) : Option Progress :=
  match p.stack with
  | [] => none
  | frame :: rest =>
    if frame.written = name ∧ 0 < p.opened then
      some ({ p with opened := p.opened - 1 }.settle rest frame.close)
    else none

/-- A character between tags. -/
def textStep? (p : Progress) (brackets : Nat) (c : Char) : Option Progress :=
  if c = '<' then some (p.goTo .angle)
  else if p.stack.isEmpty then
    if isSpace c then some (p.goTo (.text 0)) else none
  else if c = '&' then some (p.goTo (.reference []))
  else if c = ']' then some (p.write c (.text (min 2 (brackets + 1))))
  else if c = '>' ∧ brackets = 2 then none
  else some (p.write c (.text 0))

/-- The end of a reference between tags.  `inner` reads the text of an entity. -/
def referenceEnd? (inner : Progress → List Char → Option Progress) (entities : Entities)
    (p : Progress) (written : List Char) : Option Progress := do
  match ← Reference.ofChars? written.reverse with
  | .character c => return p.write c (.text 0)
  | .entity name =>
    let text ← entities.text? name
    let room ← p.spend?
    let q ← inner ⟨.text 0, p.stack, p.root, 0, p.levels - 1, room⟩ text
    match q.place, q.opened with
    | .text _, 0 => some ⟨.text 0, q.stack, q.root, p.opened, p.levels, q.room⟩
    | _, _ => none

/-- A character behind an opening angle bracket. -/
def angleStep? (p : Progress) (c : Char) : Option Progress :=
  if c = '!' then some (p.goTo (.bang []))
  else if c = '?' then some (p.goTo (.target []))
  else if c = '/' then if p.stack.isEmpty then none else some (p.goTo (.closing []))
  else if p.stack.isEmpty && p.root.isSome then none
  else if isQualifiedChar c then some (p.goTo (.name [c]))
  else none

/-- A character behind `<!`. -/
def bangStep? (p : Progress) (written : List Char) (c : Char) : Option Progress :=
  let seen := (c :: written).reverse
  if seen = "--".toList then some (p.goTo (.comment 0))
  else if seen = "[CDATA[".toList then
    if p.stack.isEmpty then none else some (p.goTo (.literal 0))
  else if ["--", "[CDATA["].any fun s => seen.isPrefixOf s.toList then
    some (p.goTo (.bang (c :: written)))
  else none

/-- A character in a comment. -/
def commentStep? (p : Progress) (hyphens : Nat) (c : Char) : Option Progress :=
  if hyphens = 2 then if c = '>' then some p.remark else none
  else if c = '-' then some (p.goTo (.comment (hyphens + 1)))
  else some (p.goTo (.comment 0))

/-- Write closing brackets that have turned out to be text. -/
def writeBrackets (p : Progress) (n : Nat) : Progress :=
  (List.range n).foldl (fun p _ => p.write ']' p.place) p

/-- A character in literal text.  The two brackets behind it belong to its end. -/
def literalStep (p : Progress) (brackets : Nat) (c : Char) : Progress :=
  if c = ']' then
    if brackets = 2 then p.write c (.literal 2) else p.goTo (.literal (brackets + 1))
  else if c = '>' ∧ brackets = 2 then p.goTo (.text 0)
  else (p.writeBrackets brackets).write c (.literal 0)

/-- A character in the body of an instruction. -/
def instructionStep (p : Progress) (mark : Bool) (c : Char) : Progress :=
  if mark && c = '>' then p.remark else p.goTo (.instruction (c = '?'))

/-- A character in the name of an instruction.  A declaration cannot stand here. -/
def targetStep? (p : Progress) (written : List Char) (c : Char) : Option Progress :=
  if written.isEmpty then
    if isNameStart c || c = ':' then some (p.goTo (.target [c])) else none
  else if isQualifiedChar c then some (p.goTo (.target (c :: written)))
  else if written = ['l', 'm', 'x'] ∧ c = ' ' then none
  else some (p.instructionStep false c)

/-- A character in an opening tag between its parts. -/
def betweenStep? (p : Progress) (tag : Tag) (spaced : Bool) (c : Char) : Option Progress :=
  if isSpace c then some (p.goTo (.between tag true))
  else if c = '/' then some (p.goTo (.slash tag))
  else if c = '>' then p.open? tag
  else if spaced && isQualifiedChar c then some (p.goTo (.key tag [c]))
  else none

/-- A character in the name of an opening tag. -/
def nameStep? (p : Progress) (written : List Char) (c : Char) : Option Progress :=
  if isQualifiedChar c then some (p.goTo (.name (c :: written)))
  else (QName.ofChars? written.reverse).bind fun name => p.betweenStep? ⟨name, []⟩ false c

/-- A character in front of an equals sign. -/
def equalsStep? (p : Progress) (tag : Tag) (key : QName) (c : Char) : Option Progress :=
  if isSpace c then some (p.goTo (.equals tag key))
  else if c = '=' then some (p.goTo (.quote tag key))
  else none

/-- A character in the name of an attribute. -/
def keyStep? (p : Progress) (tag : Tag) (written : List Char) (c : Char) :
    Option Progress :=
  if isQualifiedChar c then some (p.goTo (.key tag (c :: written)))
  else (QName.ofChars? written.reverse).bind fun name => p.equalsStep? tag name c

/-- A character in front of a value. -/
def quoteStep? (p : Progress) (tag : Tag) (key : QName) (c : Char) : Option Progress :=
  if isSpace c then some (p.goTo (.quote tag key))
  else if c = '"' ∨ c = '\'' then some (p.goTo (.value tag key c [] false))
  else none

/-- A character in a value.  White space counts as a space there, and the two
characters that end a line together count once. -/
def valueStep? (p : Progress) (tag : Tag) (key : QName) (quote : Char)
    (written : List Char) (returned : Bool) (c : Char) : Option Progress :=
  if c = quote then
    some (p.goTo (.between
      ⟨tag.name, (key, String.ofList written.reverse) :: tag.attributes⟩ false))
  else if c = '<' then none
  else if c = '&' then some (p.goTo (.valueReference tag key quote written []))
  else if returned && c = '\n' then some (p.goTo (.value tag key quote written false))
  else some (p.goTo (.value tag key quote (Entity.plain c :: written) (c = '\r')))

/-- The end of a reference in a value.  Outside the texts of entities a character
is meant as it is. -/
def valueReferenceEnd? (entities : Entities) (p : Progress) (tag : Tag) (key : QName)
    (quote : Char) (written reference : List Char) : Option Progress := do
  match ← Reference.ofChars? reference.reverse with
  | .character c =>
    if !p.isInside then some (p.goTo (.value tag key quote (c :: written) false))
    else if c = '<' then none
    else some (p.goTo (.value tag key quote (Entity.plain c :: written) false))
  | .entity name =>
    let room ← p.spend?
    let spelling ← Entity.inValue? entities p.levels room name
    some { p with
      place := .value tag key quote (spelling.written ++ written) false
      room := spelling.room }

/-- A character of a closing tag behind its name. -/
def closedStep? (p : Progress) (name : QName) (c : Char) : Option Progress :=
  if c = '>' then p.close? name
  else if isSpace c then some (p.goTo (.closed name))
  else none

/-- What one more legal character makes of the progress. -/
def legalStep? (inner : Progress → List Char → Option Progress) (entities : Entities)
    (p : Progress) (c : Char) : Option Progress :=
  match p.place with
  | .text brackets => p.textStep? brackets c
  | .reference written =>
    if c = ';' then p.referenceEnd? inner entities written
    else some (p.goTo (.reference (c :: written)))
  | .angle => p.angleStep? c
  | .bang written => p.bangStep? written c
  | .comment hyphens => p.commentStep? hyphens c
  | .literal brackets => some (p.literalStep brackets c)
  | .target written => p.targetStep? written c
  | .instruction mark => some (p.instructionStep mark c)
  | .name written => p.nameStep? written c
  | .between tag spaced => p.betweenStep? tag spaced c
  | .key tag written => p.keyStep? tag written c
  | .equals tag key => p.equalsStep? tag key c
  | .quote tag key => p.quoteStep? tag key c
  | .value tag key quote written returned => p.valueStep? tag key quote written returned c
  | .valueReference tag key quote written reference =>
    if c = ';' then p.valueReferenceEnd? entities tag key quote written reference
    else some (p.goTo (.valueReference tag key quote written (c :: reference)))
  | .slash tag => if c = '>' then p.empty? tag else none
  | .closing written =>
    if isQualifiedChar c then some (p.goTo (.closing (c :: written)))
    else (QName.ofChars? written.reverse).bind fun name => p.closedStep? name c
  | .closed name => p.closedStep? name c

/-- What one more character makes of the progress. -/
def step? (inner : Progress → List Char → Option Progress) (entities : Entities)
    (p : Progress) (c : Char) : Option Progress :=
  if isLegal c then p.legalStep? inner entities c else none

/-- What a text makes of the progress, if texts of entities may be so deep inside
it, itself counted. -/
def runWithin? (entities : Entities) : (levels : Nat) → Progress → List Char → Option Progress
  | 0 => fun _ _ => none
  | levels + 1 => fun p s => s.foldlM (step? (runWithin? entities levels) entities) p

/-- What a text makes of the progress. -/
def run? (entities : Entities) (p : Progress) (s : List Char) : Option Progress :=
  runWithin? entities (Entity.maxLevels + 1) p s

/-- The outermost element, if nothing is left open. -/
def element? (p : Progress) : Option Node :=
  match p.place, p.stack with
  | .text _, [] => p.root
  | _, _ => none

end Progress

/-- The outermost element of well-formed markup. -/
def Node.ofText? (s : String) : Option Node := do
  let manuscript ← Manuscript.ofChars? s.toList
  let progress ← Progress.start.run? manuscript.entities manuscript.body
  progress.element?

end CanvasPress.Markup
