/-
# Prefixes of names

Tags are written with qualified names.  Some attributes of a tag are no
attributes of the element: they bind prefixes to namespaces, for the tag itself
and for all that is inside.  The namespaces of markup itself are reserved.
-/

import CanvasPress.Markup.Node

namespace CanvasPress.Markup

/-- A tag as it is being read, its attributes in reverse. -/
structure Tag where
  name : QName
  attributes : List (QName × String)
deriving Inhabited

/-- The prefixes in force, the innermost first, with their namespaces; the empty
prefix has the default namespace. -/
abbrev Scope := List (String × String)

namespace Scope

/-- The namespace that the prefix `xml` always has. -/
def reserved : String := "http://www.w3.org/XML/1998/namespace"

/-- The namespace of the declarations themselves, which nothing may be bound to. -/
def declaring : String := "http://www.w3.org/2000/xmlns/"

/-- What the name and the value of an attribute do to the prefixes. -/
inductive Binding where
  /-- A prefix is bound to a namespace. -/
  | pref (name space : String)
  /-- Names without prefix are bound to a namespace. -/
  | default (space : String)
  /-- The attribute binds nothing. -/
  | plain
deriving DecidableEq, Inhabited

/-- The binding of an attribute. -/
def Binding.ofAttribute (a : QName × String) : Binding :=
  if a.1.pref = "xmlns" then .pref a.1.base a.2
  else if a.1.base = "xmlns" then .default a.2
  else .plain

/-- Whether a binding leaves the reserved namespaces alone. -/
def Binding.isProper : Binding → Bool
  | pref name space => space != declaring && ((name == "xml") == (space == reserved))
  | default space => space != declaring && space != reserved
  | plain => true

/-- The entry of a binding, if it changes anything. -/
def Binding.entry? : Binding → Option (String × String)
  | pref name space => if name = "xml" then none else some (name, space)
  | default space => some ("", space)
  | plain => none

/-- Bind the prefixes that a tag declares, none of them twice.  Of two default
namespaces the first counts. -/
def bind? (scope : Scope) (attributes : List (QName × String)) : Option Scope :=
  let bindings := attributes.map Binding.ofAttribute
  let entries := bindings.filterMap Binding.entry?
  if bindings.all Binding.isProper &&
      (entries.filterMap fun e => if e.1.isEmpty then none else some e.1).Nodup then
    some (entries ++ scope)
  else none

/-- The namespace that a prefix is bound to. -/
def bound? (scope : Scope) (pref : String) : Option String :=
  (scope.find? fun entry => entry.1 == pref).map (·.2)

/-- The name of an element; its prefix must be known. -/
def elementName? (scope : Scope) (name : QName) : Option Name :=
  if name.pref.isEmpty then some ⟨scope.bound? "", name.base⟩
  else if name.pref = "xml" || name.pref = "xmlns" then none
  else (scope.bound? name.pref).map fun space => ⟨some space, name.base⟩

/-- The name of an attribute; without prefix it is in no namespace. -/
def attributeName? (scope : Scope) (name : QName) : Option Name :=
  if name.pref.isEmpty then some ⟨none, name.base⟩
  else if name.pref = "xml" then some ⟨some reserved, name.base⟩
  else (scope.bound? name.pref).map fun space => ⟨some space, name.base⟩

/-- The attributes that bind nothing. -/
def resolve? (scope : Scope) (attributes : List (QName × String)) : Option (List Attribute) :=
  (attributes.filter fun a => Binding.ofAttribute a == .plain).mapM fun a =>
    (scope.attributeName? a.1).map fun name => ⟨name, a.2⟩

end Scope

/-- An element whose end has not come yet. -/
structure Frame where
  written : QName
  scope : Scope
  head : Head
  /-- The text behind the last child, in reverse. -/
  text : List Char
  /-- The children so far, in reverse. -/
  children : List Node

namespace Frame

/-- Begin an element inside the given scope.  No attribute stands twice. -/
def ofTag? (outer : Scope) (tag : Tag) : Option Frame := do
  let attributes := tag.attributes.reverse
  let scope ← outer.bind? attributes
  let name ← scope.elementName? tag.name
  let resolved ← scope.resolve? attributes
  if (resolved.map Attribute.name).Nodup then
    some ⟨tag.name, scope, ⟨name, resolved⟩, [], []⟩
  else none

/-- The children so far and the text behind them, in reverse. -/
def content (f : Frame) : List Node :=
  if f.text.isEmpty then f.children
  else .text (String.ofList f.text.reverse) :: f.children

/-- The finished element. -/
def close (f : Frame) : Node :=
  .element f.head f.content.reverse

/-- Put a finished child inside. -/
def adopt (f : Frame) (n : Node) : Frame :=
  { f with text := [], children := n :: f.content }

/-- Write a character inside. -/
def write (f : Frame) (c : Char) : Frame :=
  { f with text := c :: f.text }

end Frame

end CanvasPress.Markup
