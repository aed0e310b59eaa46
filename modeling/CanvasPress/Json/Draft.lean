/-
# Drafts: what a JSON text says as far as it can be read

A reader of JSON text that also checks types meets two kinds of trouble, text
that is not JSON and values of the wrong type, and reports whichever comes
first in the text.  A `Draft` keeps both readings apart: it is the tree of the
text up to the place where the text stops being JSON, and that place is marked
in the tree.  Decoding a draft in document order then finds the first trouble.

Values that nobody looks at are skipped more leniently than others are read:
lone surrogates and numbers out of range are accepted there.
-/

import CanvasPress.Json.Basic

namespace CanvasPress.Json

open Decimal

/-- Why a text is not JSON. -/
inductive Cause where
  /-- Something stands where JSON does not allow it. -/
  | malformed
  /-- The text ends too early. -/
  | cutShort
deriving DecidableEq, Inhabited

/-- The kind and content of a value, as far as a type error describes it. -/
inductive Found where
  | null
  | bool (value : Bool)
  | integer (value : Int)
  | float (value : Binary64)
  | text (value : String)
  | array
  | object
deriving DecidableEq, Inhabited

/-- How the members of a container end. -/
inductive Ending where
  /-- With the closing bracket. -/
  | closed
  /-- Without it; `afterComma` tells whether a comma came last. -/
  | cut (afterComma : Bool) (cause : Cause)
  /-- A value that is no key stands where the first key belongs. -/
  | stray (found : Found)
deriving DecidableEq, Inhabited

/-- The tree of a text up to the place where it stops being JSON. -/
inductive Draft where
  | null
  | bool (value : Bool)
  | integer (value : Int)
  | float (value : Binary64)
  | text (value : String)
  | array (items : List Draft) (ending : Ending)
  /-- A key is `none` when it has a lone surrogate. -/
  | object (members : List (Option String × Draft)) (ending : Ending)
  /-- No value; `reading` is the trouble of a reader, `skipping` that of a reader
  who only skips the value, if that is trouble at all. -/
  | unreadable (reading : Cause) (skipping : Option Cause)
deriving Inhabited

namespace Draft

/-- Trouble for every reader. -/
def broken (cause : Cause) : Draft :=
  .unreadable cause (some cause)

mutual

/-- The draft of a closed value. -/
def ofJson : Json → Draft
  | .null => .null
  | .bool b => .bool b
  | .integer n => .integer n
  | .float x => .float x
  | .text s => .text s
  | .array items => .array (ofItems items) .closed
  | .object members => .object (ofMembers members) .closed

/-- `ofJson` on every item. -/
def ofItems : List Json → List Draft
  | [] => []
  | item :: rest => ofJson item :: ofItems rest

/-- `ofJson` on every member. -/
def ofMembers : List (String × Json) → List (Option String × Draft)
  | [] => []
  | (key, value) :: rest => (some key, ofJson value) :: ofMembers rest

end

/-- The trouble of an ending for a reader of all members. -/
def endingTrouble : Ending → Except Cause Unit
  | .closed => .ok ()
  | .cut _ cause => .error cause
  | .stray _ => .error .malformed

mutual

/-- Skip a value: only text that is not JSON at all is trouble. -/
def skip : Draft → Except Cause Unit
  | .array items ending => do
    skipItems items
    endingTrouble ending
  | .object members ending => do
    skipMembers members
    endingTrouble ending
  | .unreadable _ (some cause) => .error cause
  | _ => .ok ()

/-- Skip every item. -/
def skipItems : List Draft → Except Cause Unit
  | [] => .ok ()
  | item :: rest => do
    skip item
    skipItems rest

/-- Skip every member. -/
def skipMembers : List (Option String × Draft) → Except Cause Unit
  | [] => .ok ()
  | (_, value) :: rest => do
    skip value
    skipMembers rest

end

mutual

/-- Read a whole value whatever its type.  `depth` containers are open around
it, and at most `127` may be open at once. -/
def close (depth : Nat) : Draft → Except Cause Json
  | .null => .ok .null
  | .bool b => .ok (.bool b)
  | .integer n => .ok (.integer n)
  | .float x => .ok (.float x)
  | .text s => .ok (.text s)
  | .array items ending =>
    if 127 ≤ depth then .error .malformed
    else do
      let items ← closeItems (depth + 1) items
      endingTrouble ending
      return .array items
  | .object members ending =>
    if 127 ≤ depth then .error .malformed
    else do
      let members ← closeMembers (depth + 1) members
      endingTrouble ending
      return .object members
  | .unreadable cause _ => .error cause

/-- Read every item. -/
def closeItems (depth : Nat) : List Draft → Except Cause (List Json)
  | [] => .ok []
  | item :: rest => do
    let item ← close depth item
    let rest ← closeItems depth rest
    return item :: rest

/-- Read every member; a key with a lone surrogate is trouble. -/
def closeMembers (depth : Nat) :
    List (Option String × Draft) → Except Cause (List (String × Json))
  | [] => .ok []
  | (none, _) :: _ => .error .malformed
  | (some key, value) :: rest => do
    let value ← close depth value
    let rest ← closeMembers depth rest
    return (key, value) :: rest

end

end Draft

end CanvasPress.Json
