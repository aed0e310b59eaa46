/-
# Expansion of copies

An element `use` stands for a copy of another element, which becomes the only
one inside it.  A copy has no identity, and a copy that would hold itself is
left out.  Expansion fails where elements are too deep inside each other or too
many; then also chains of copies end.
-/

import CanvasPress.Drawing.Element
import CanvasPress.Drawing.Link

namespace CanvasPress.Drawing

namespace Expansion

/-- How deep elements may be inside each other, the outermost being at depth
zero. -/
def maxDepth : Nat := 1024

/-- How many elements there may be. -/
def maxElements : Nat := 1000000

/-- What a setting is for an element inside others: its value may be taken from
there, or be what it is where nothing sets it. -/
def resolved? (above : List Element) (s : Setting) : Option Setting :=
  if s.value = "inherit" ∧ Property.canInherit s.name then
    let found :=
      if Property.isShared s.name then above.findSome? fun e => e.setting? s.name
      else above.head?.bind fun e => e.setting? s.name
    found <|> (Property.initial? s.name).map fun value => ⟨s.name, value, s.isImportant⟩
  else some s

/-- Change a setting, unless it is important, or add it. -/
def assign (settings : List Setting) (s : Setting) : List Setting :=
  match settings with
  | [] => [s]
  | t :: rest =>
    if t.name = s.name then (if t.isImportant then t else s) :: rest else t :: assign rest s

/-- The settings of an element from its attributes and its styles. -/
def settle (above : List Element) (attributes styles : List Setting) : List Setting :=
  (styles.filterMap (resolved? above)).foldl assign (attributes.filterMap (resolved? above))

/-- The element of a drawing that an identity belongs to, the first one. -/
def target? (all : List Styled) (identity : String) : Option Styled :=
  all.find? fun e => (e.head?.bind fun h => h.attribute? "id") = some identity

/-- The element that a copy is made of. -/
def link? (all : List Styled) (e : Styled) : Option Styled := do
  let head ← e.head?
  let text ← head.attributeIn? linkSpace "href" <|> head.attribute? "href"
  target? all (← Link.ofText? text)

/-- Whether an element holds a copy of one of two elements. -/
def holdsCopy (all : List Styled) (e : Styled) (serial : Nat) : Bool :=
  (e.elements.drop 1).any fun inner =>
    (inner.head?.any fun h => h.name == ⟨some space, "use"⟩) &&
      (match (link? all inner).bind Styled.serial? with
        | some n => n == serial || some n == e.serial?
        | none => false)

/-- The element that a `use` copies.  It is not itself, not the one that the copy
it is in was made for, and holds no copy of either. -/
def copied? (all : List Styled) (origin : Option Nat) (e : Styled) (serial : Nat) :
    Option Styled := do
  let link ← link? all e
  let n ← link.serial?
  if n = serial || some n = origin || link.tag?.isNone || holdsCopy all link serial then none
  else some link

/-- Elements and how many more there may be. -/
structure Yield where
  elements : List Element
  room : Nat

/-- The elements of several nodes in order, if each node can be expanded. -/
def collect (expand : Nat → Styled → Option Yield) : Nat → List Styled → Option Yield
  | room, [] => some ⟨[], room⟩
  | room, n :: rest => do
    let first ← expand room n
    let more ← collect expand first.room rest
    return ⟨first.elements ++ more.elements, more.room⟩

/-- The settings without the identity. -/
def anonymous (settings : List Setting) : List Setting :=
  settings.filter fun s => s.name != "id"

/-- Expand a node with so much depth left.  `origin` is the number of the copy that
it is part of. -/
def expand (all : List Styled) :
    (depth : Nat) → (origin : Option Nat) → (above : List Element) → Nat → Styled → Option Yield
  | 0, _, _, _, _ => none
  | depth + 1, origin, above, room, n =>
    match n with
    | .element serial (some tag) head attributes styles children =>
      if tag = .style then some ⟨[], room⟩
      else if room = 0 then none
      else
        let attributes := if origin.isSome then anonymous attributes else attributes
        let settings := settle above attributes styles
        let e : Element := .node tag settings []
        match tag with
        | .text => some ⟨[e], room - 1⟩
        | .use =>
          match copied? all origin (.element serial (some tag) head attributes styles children)
              serial with
          | none => some ⟨[e], room - 1⟩
          | some link =>
            match depth with
            | 0 => none
            | depth + 1 => do
              let inside ← expand all depth (some serial) (e :: above) (room - 1) link
              return ⟨[.node tag settings inside.elements], inside.room⟩
        | _ => do
          let inside ← collect (expand all depth origin (e :: above)) (room - 1) children
          return ⟨[.node tag settings inside.elements], inside.room⟩
    | _ => some ⟨[], room⟩

end Expansion

/-- The outermost element of a drawing, copies expanded; it must be the right one. -/
def Element.ofRoot? (root : Styled) : Option Element := do
  let yield ← Expansion.expand root.elements (Expansion.maxDepth + 1) none []
    Expansion.maxElements root
  match yield.elements with
  | [e] => if e.tag = .svg then some e else none
  | _ => none

end CanvasPress.Drawing
