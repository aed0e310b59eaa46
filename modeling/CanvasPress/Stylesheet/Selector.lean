/-
# Selectors

A selector picks elements by their names and attributes and by where they stand.
It is a last part that the element itself must satisfy, and in front of it parts
for elements around it or before it.  More specific selectors count more.
-/

import CanvasPress.Markup.Node

namespace CanvasPress.Stylesheet

open Markup (Head)

/-- What is asked about the value of an attribute. -/
inductive ValueTest where
  | present
  /-- The value is this text. -/
  | equals (value : String)
  /-- This text is one of the words of the value. -/
  | holds (word : String)
  /-- The value is this text, or begins with it and a hyphen. -/
  | begins (value : String)
deriving DecidableEq, Inhabited

/-- Whether a value passes a test. -/
def ValueTest.accepts (t : ValueTest) (value : String) : Bool :=
  match t with
  | present => true
  | equals v => value == v
  | holds word => (value.splitOn " ").contains word
  | begins v => value == v || (v ++ "-").isPrefixOf value

/-- What is asked about an element besides its name. -/
inductive Test where
  | value (name : String) (test : ValueTest)
  /-- No element stands before it. -/
  | firstChild
  /-- It is in a state that a drawing never has. -/
  | never
deriving DecidableEq, Inhabited

/-- How two parts of a selector are related. -/
inductive Relation where
  /-- The element of the former is anywhere around that of the latter. -/
  | around
  /-- The element of the former is directly around that of the latter. -/
  | parent
  /-- The element of the former is directly before that of the latter. -/
  | before
deriving DecidableEq, Inhabited

/-- What one element has to satisfy. -/
structure Compound where
  name : Option String
  tests : List Test
deriving DecidableEq, Inhabited

/-- A selector: the last part, and the parts in front of it from the right, each
with its relation to the part behind it. -/
structure Selector where
  last : Compound
  front : List (Relation × Compound)
deriving DecidableEq, Inhabited

/-- Where an element stands: its tag, the element before it, and the element
around it. -/
inductive Site where
  | mk (head : Head) (before : Option Site) (around : Option Site)
deriving Inhabited

namespace Site

/-- The opening tag. -/
def head : Site → Head
  | mk head _ _ => head

/-- The element before. -/
def before? : Site → Option Site
  | mk _ before _ => before

/-- The element around. -/
def around? : Site → Option Site
  | mk _ _ around => around

/-- Whether some element around an element satisfies a condition. -/
def anyAround (condition : Site → Bool) : Site → Bool
  | mk _ _ none => false
  | mk _ _ (some site) => condition site || anyAround condition site

end Site

/-- Whether an element passes a test. -/
def Test.accepts (t : Test) (site : Site) : Bool :=
  match t with
  | value name test => (site.head.attribute? name).any test.accepts
  | firstChild => site.before?.isNone
  | never => false

/-- Whether an element satisfies a part of a selector. -/
def Compound.accepts (c : Compound) (site : Site) : Bool :=
  c.name.all (· == site.head.name.base) && c.tests.all fun t => t.accepts site

namespace Selector

/-- Whether elements in front of an element satisfy the parts of a selector. -/
def acceptsFront : List (Relation × Compound) → Site → Bool
  | [], _ => true
  | (relation, compound) :: rest, site =>
    let condition (site : Site) : Bool := compound.accepts site && acceptsFront rest site
    match relation with
    | .around => site.anyAround condition
    | .parent => site.around?.any condition
    | .before => site.before?.any condition

/-- Whether a selector picks an element. -/
def accepts (s : Selector) (site : Site) : Bool :=
  s.last.accepts site && acceptsFront s.front site

/-- The greatest count in a weight. -/
def maxCount : Nat := 255

/-- How specific a selector is: the tests of identity, the other tests, and the
names, as one number. -/
def weight (s : Selector) : Nat :=
  let parts := s.last :: s.front.map (·.2)
  let tests := parts.flatMap Compound.tests
  let isIdentity (t : Test) : Bool :=
    match t with
    | .value name _ => name == "id"
    | _ => false
  let count (n : Nat) : Nat := min maxCount n
  count (tests.countP isIdentity) * 65536 + count (tests.countP fun t => !isIdentity t) * 256 +
    count (parts.countP fun c => c.name.isSome)

end Selector

end CanvasPress.Stylesheet
