/-
# JSON values

The closed values that this library writes and that requests embed.  Members of
an object keep the order in which they were written; `Json.sorted` is the
canonical form of an embedded value, in which each key appears once and keys
stand in the order of their code points.
-/

import CanvasPress.Decimal.Binary64

namespace CanvasPress

open Decimal

/-- A JSON value. -/
inductive Json where
  | null
  | bool (value : Bool)
  | integer (value : Int)
  | float (value : Binary64)
  | text (value : String)
  | array (items : List Json)
  | object (members : List (String × Json))
deriving Inhabited

namespace Json

/-- A natural number as a JSON value. -/
def natural (n : Nat) : Json :=
  .integer n

/-- A string, or null when there is none. -/
def optionalText : Option String → Json
  | none => .null
  | some s => .text s

/-- A natural number, or null when there is none. -/
def optionalNatural : Option Nat → Json
  | none => .null
  | some n => natural n

/-- Put a member into a list of members sorted by key, replacing an equal key. -/
def insertMember {α : Type} (key : String) (value : α) : List (String × α) → List (String × α)
  | [] => [(key, value)]
  | (k, v) :: rest =>
    if key = k then (key, value) :: rest
    else if key < k then (key, value) :: (k, v) :: rest
    else (k, v) :: insertMember key value rest

/-- Members sorted by key; of equal keys the last one stays. -/
def sortMembers {α : Type} (members : List (String × α)) : List (String × α) :=
  members.foldl (fun sorted m => insertMember m.1 m.2 sorted) []

mutual

/-- Sort the members of every object inside a value. -/
def sorted : Json → Json
  | .array items => .array (sortedItems items)
  | .object members => .object (sortMembers (sortedMembers members))
  | other => other

/-- `sorted` on every item. -/
def sortedItems : List Json → List Json
  | [] => []
  | item :: rest => sorted item :: sortedItems rest

/-- `sorted` on every member's value. -/
def sortedMembers : List (String × Json) → List (String × Json)
  | [] => []
  | (key, value) :: rest => (key, sorted value) :: sortedMembers rest

end

end Json

end CanvasPress
