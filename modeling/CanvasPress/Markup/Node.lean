/-
# Markup as a tree

Markup is a tree of elements, each with a name in a namespace and attributes.
Between the tags of an element there may be text.  Comments and instructions
say nothing, but they have their place among the children.
-/

import CanvasPress.Markup.Name

namespace CanvasPress.Markup

/-- A name in a namespace, if it is in one. -/
structure Name where
  space : Option String
  base : String
deriving DecidableEq, Inhabited

/-- An attribute with its value. -/
structure Attribute where
  name : Name
  value : String
deriving DecidableEq, Inhabited

/-- What the opening tag of an element says. -/
structure Head where
  name : Name
  attributes : List Attribute
deriving DecidableEq, Inhabited

/-- The value of an attribute that is in no namespace. -/
def Head.attribute? (h : Head) (base : String) : Option String :=
  (h.attributes.find? fun a => a.name == ⟨none, base⟩).map (·.value)

/-- The value of an attribute in a namespace. -/
def Head.attributeIn? (h : Head) (space base : String) : Option String :=
  (h.attributes.find? fun a => a.name == ⟨some space, base⟩).map (·.value)

/-- A node of markup. -/
inductive Node where
  | element (head : Head) (children : List Node)
  /-- Text, which is never empty. -/
  | text (content : String)
  /-- A comment or an instruction. -/
  | aside
deriving Inhabited

end CanvasPress.Markup
