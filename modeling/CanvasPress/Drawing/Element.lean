/-
# Elements of drawings

An element has a kind, attributes and elements inside.  What is in force for it
depends on the elements around it, so it is looked at together with them: a
`Branch` is an element with those around it, the nearest first.
-/

import CanvasPress.Drawing.Styled

namespace CanvasPress.Drawing

/-- An element of a drawing. -/
inductive Element where
  | node (tag : Tag) (settings : List Setting) (children : List Element)
deriving Inhabited

namespace Element

/-- What the element is. -/
def tag : Element → Tag
  | node tag _ _ => tag

/-- The attributes with their values. -/
def settings : Element → List Setting
  | node _ settings _ => settings

/-- The elements inside, in order. -/
def children : Element → List Element
  | node _ _ children => children

/-- The setting of an attribute. -/
def setting? (e : Element) (name : String) : Option Setting :=
  e.settings.find? fun s => s.name == name

/-- The value of an attribute. -/
def attribute? (e : Element) (name : String) : Option String :=
  (e.setting? name).map Setting.value

/-- Whether an element has an attribute. -/
def has (e : Element) (name : String) : Bool :=
  (e.setting? name).isSome

end Element

/-- An element with the elements around it, the nearest first. -/
structure Branch where
  element : Element
  above : List Element
deriving Inhabited

namespace Branch

/-- What the element is. -/
def tag (b : Branch) : Tag :=
  b.element.tag

/-- The value of an attribute of the element itself. -/
def attribute? (b : Branch) (name : String) : Option String :=
  b.element.attribute? name

/-- Whether the element itself has an attribute. -/
def has (b : Branch) (name : String) : Bool :=
  b.element.has name

/-- An element inside. -/
def child (b : Branch) (e : Element) : Branch :=
  ⟨e, b.element :: b.above⟩

/-- The elements inside. -/
def children (b : Branch) : List Branch :=
  b.element.children.map b.child

/-- The elements around, the nearest first, each with those around it. -/
def around : List Element → List Branch
  | [] => []
  | e :: above => ⟨e, above⟩ :: around above

/-- The element and those around it, the nearest first. -/
def line (b : Branch) : List Branch :=
  b :: around b.above

/-- The nearest element that has an attribute. -/
def nearest? (b : Branch) (name : String) : Option Branch :=
  b.line.find? fun b => b.has name

/-- The value of an attribute that is in force: that of the nearest element. -/
def inForce? (b : Branch) (name : String) : Option String :=
  (b.nearest? name).bind fun b => b.attribute? name

mutual

/-- The branches of an element and of those inside, in the order of their tags. -/
def ofElement (above : List Element) : Element → List Branch
  | .node tag settings children =>
    let e : Element := .node tag settings children
    ⟨e, above⟩ :: ofElements (e :: above) children

/-- The branches of several elements, in the order of their tags. -/
def ofElements (above : List Element) : List Element → List Branch
  | [] => []
  | e :: rest => ofElement above e ++ ofElements above rest

end

end Branch

end CanvasPress.Drawing
