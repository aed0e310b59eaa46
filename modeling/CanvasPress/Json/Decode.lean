/-
# Decoding drafts into typed values

A decoder looks at a draft and either returns a value or the first trouble in
document order: text that is not JSON, or a `Mismatch` between the text and the
type.  Records are described by a `Shape`, from which both of their written
forms are decoded, the object with named members and the array in field order.

A draft stands in one of three places, and the place decides how names of
enumerations are written and how much of a value is read ahead.
-/

import CanvasPress.Decimal.Power
import CanvasPress.Json.Printer
import CanvasPress.Json.Reader
import CanvasPress.Text.Quoted

namespace CanvasPress.Json

open Decimal

/-- The words for what was found. -/
def Found.describe : Found → String
  | .null => "null"
  | .bool true => "boolean `true`"
  | .bool false => "boolean `false`"
  | .integer n => "integer `" ++ String.ofList (writeInteger n) ++ "`"
  | .float x => "floating point `" ++ x.text Style.message ++ "`"
  | .text s => "string " ++ Text.quoted s
  | .array => "sequence"
  | .object => "map"

/-- A disagreement between a JSON value and the type it is read as. -/
inductive Mismatch where
  | invalidType (found : Found) (expected : String)
  | invalidValue (found : Found) (expected : String)
  | invalidLength (length : Nat) (expected : String)
  | missingField (name : String)
  | duplicateField (name : String)
  | unknownVariant (name : String) (known : List String)
  | noShapeFits (type : String)
  | severalKeys
  | timestamp (reason : String)
deriving DecidableEq

/-- The names of an enumeration as a message lists them. -/
def listVariants : List String → String
  | [] => "there are no variants"
  | [a] => "expected `" ++ a ++ "`"
  | [a, b] => "expected `" ++ a ++ "` or `" ++ b ++ "`"
  | names => "expected one of " ++ String.intercalate ", " (names.map fun n => "`" ++ n ++ "`")

/-- The text of a mismatch. -/
def Mismatch.message : Mismatch → String
  | .invalidType found expected => "invalid type: " ++ found.describe ++ ", expected " ++ expected
  | .invalidValue found expected => "invalid value: " ++ found.describe ++ ", expected " ++ expected
  | .invalidLength n expected =>
    "invalid length " ++ String.ofList (Nat.toDigits 10 n) ++ ", expected " ++ expected
  | .missingField name => "missing field `" ++ name ++ "`"
  | .duplicateField name => "duplicate field `" ++ name ++ "`"
  | .unknownVariant name known => "unknown variant `" ++ name ++ "`, " ++ listVariants known
  | .noShapeFits type => "data did not match any variant of untagged enum " ++ type
  | .severalKeys => "invalid value: map, expected map with a single key"
  | .timestamp reason => reason

/-- Why a draft does not decode. -/
inductive Refusal where
  | unreadable (cause : Cause)
  | mismatch (what : Mismatch)
deriving DecidableEq

/-- Where a draft stands. -/
inductive Place where
  /-- In a text that is read as it is decoded, with this many containers open. -/
  | text (depth : Nat)
  /-- In a value that was read before it is decoded. -/
  | embedded
  /-- In a value that was set aside while a surrounding record was read. -/
  | buffered
deriving DecidableEq, Inhabited

/-- The place inside a container. -/
def Place.inner : Place → Place
  | .text depth => .text (depth + 1)
  | other => other

/-- A decoder of one type. -/
abbrev Decoder (α : Type) := Place → Draft → Except Refusal α

/-- Refuse with a mismatch. -/
def mismatch {α : Type} (what : Mismatch) : Except Refusal α :=
  .error (.mismatch what)

/-- Turn trouble with the text into a refusal. -/
def orUnreadable {α : Type} : Except Cause α → Except Refusal α
  | .ok value => .ok value
  | .error cause => .error (.unreadable cause)

/-- Refuse a draft that is of another type than the expected one. -/
def wrongType {α : Type} (expected : String) : Draft → Except Refusal α
  | .null => mismatch (.invalidType .null expected)
  | .bool b => mismatch (.invalidType (.bool b) expected)
  | .integer n => mismatch (.invalidType (.integer n) expected)
  | .float x => mismatch (.invalidType (.float x) expected)
  | .text s => mismatch (.invalidType (.text s) expected)
  | .array _ _ => mismatch (.invalidType .array expected)
  | .object _ _ => mismatch (.invalidType .object expected)
  | .unreadable cause _ => .error (.unreadable cause)

/-- An integer from zero to a limit; the type's name appears in messages. -/
def naturalUpTo (limit : Nat) (type : String) : Decoder Nat := fun _ draft =>
  match draft with
  | .integer n =>
    if 0 ≤ n ∧ n ≤ limit then .ok n.toNat else mismatch (.invalidValue (.integer n) type)
  | other => wrongType type other

/-- An integer of eight bits. -/
def octet : Decoder Nat := naturalUpTo (twoTo 8 - 1) "u8"

/-- An integer of 32 bits. -/
def word : Decoder Nat := naturalUpTo (twoTo 32 - 1) "u32"

/-- An integer of 64 bits. -/
def long : Decoder Nat := naturalUpTo (twoTo 64 - 1) "u64"

/-- A count of things in memory. -/
def count : Decoder Nat := naturalUpTo (twoTo 64 - 1) "usize"

/-- A truth value. -/
def boolean : Decoder Bool := fun _ draft =>
  match draft with
  | .bool b => .ok b
  | other => wrongType "a boolean" other

/-- A string, under the name that messages give it. -/
def stringNamed (expected : String) : Decoder String := fun _ draft =>
  match draft with
  | .text s => .ok s
  | other => wrongType expected other

/-- A string. -/
def string : Decoder String := stringNamed "a string"

/-- The path of a file. -/
def path : Decoder String := stringNamed "path string"

/-- A value or null. -/
def optional {α : Type} (decode : Decoder α) : Decoder (Option α) := fun place draft =>
  match draft with
  | .null => .ok none
  | other => (decode place other).map some

/-- Every item of an array in order. -/
def decodeItems {α : Type} (decode : Decoder α) (place : Place) :
    List Draft → Except Refusal (List α)
  | [] => .ok []
  | item :: rest => do
    let item ← decode place item
    let rest ← decodeItems decode place rest
    return item :: rest

/-- An array of values of one type. -/
def listOf {α : Type} (decode : Decoder α) : Decoder (List α) := fun place draft =>
  match draft with
  | .array items ending => do
    let items ← decodeItems decode place.inner items
    orUnreadable (Draft.endingTrouble ending)
    return items
  | other => wrongType "a sequence" other

/-- The member of an enumeration with a given name. -/
def variant {α : Type} (known : List (String × α)) (name : String) : Except Refusal α :=
  match known.find? fun v => v.1 == name with
  | some (_, value) => .ok value
  | none => mismatch (.unknownVariant name (known.map (·.1)))

/-- The content that may follow the name of a variant: nothing. -/
def emptyContent (place : Place) : Draft → Except Refusal Unit
  | .null => .ok ()
  | .object [] .closed =>
    if place = .buffered then .ok () else mismatch (.invalidType .object "unit")
  | other => wrongType "unit" other

/-- An enumeration whose members have names only, written as the name or as an
object from the name to null. -/
def enumeration {α : Type} (known : List (String × α)) : Decoder α := fun place draft =>
  match place, draft with
  | _, .text name => variant known name
  | .text _, .object [] (.stray found) => mismatch (.invalidType found "variant identifier")
  | .text _, .object [] .closed => .error (.unreadable .malformed)
  | .text _, .object [] (.cut _ cause) => .error (.unreadable cause)
  | .text _, .object ((none, _) :: _) _ => .error (.unreadable .malformed)
  | .text _, .object ((some name, content) :: more) ending => do
    let value ← variant known name
    emptyContent place content
    match more, ending with
    | [], .closed => return value
    | [], .cut false cause => .error (.unreadable cause)
    | _, _ => .error (.unreadable .malformed)
  | .text _, .unreadable cause _ => .error (.unreadable cause)
  | .text _, _ => .error (.unreadable .malformed)
  | _, .object [(some name, content)] _ => do
    let value ← variant known name
    emptyContent place content
    return value
  | _, .object _ _ => mismatch .severalKeys
  | _, other => wrongType "string or map" other

/-- One field of a record: its name and how its value enters the record under
construction. -/
structure Field (σ : Type) where
  name : String
  set : Place → Draft → σ → Except Refusal σ

/-- A field that stores a decoded value. -/
def field {σ α : Type} (name : String) (decode : Decoder α) (store : α → σ → σ) : Field σ :=
  ⟨name, fun place draft record => (decode place draft).map fun value => store value record⟩

/-- The value of a field that must be there. -/
def requireField {α : Type} (name : String) : Option α → Except String α
  | some value => .ok value
  | none => .error name

/-- How a record is written: its type's name, its fields in order, the record
with no field set, and the finished value or the first field that is missing. -/
structure Shape (σ α : Type) where
  type : String
  fields : List (Field σ)
  blank : σ
  finish : σ → Except String α

namespace Shape

variable {σ α : Type}

/-- Decode members in document order.  A name of a field may occur once; other
names are skipped. -/
def setMembers (fields : List (Field σ)) (place : Place) :
    List String → List (Option String × Draft) → σ → Except Refusal σ
  | _, [], record => .ok record
  | _, (none, _) :: _, _ => .error (.unreadable .malformed)
  | seen, (some key, draft) :: rest, record =>
    match fields.find? fun f => f.name == key with
    | none => do
      orUnreadable draft.skip
      setMembers fields place seen rest record
    | some f =>
      if seen.contains key then mismatch (.duplicateField key)
      else do
        let record ← f.set place draft record
        setMembers fields place (key :: seen) rest record

/-- Decode items in field order, as far as both go.  Items in excess are left. -/
def setItems (place : Place) :
    List (Field σ) → List Draft → σ → Except Refusal (σ × List Draft)
  | f :: fields, item :: items, record => do
    let record ← f.set place item record
    setItems place fields items record
  | _, items, record => .ok (record, items)

/-- How messages name the array form. -/
def arrayForm (shape : Shape σ α) : String :=
  let n := shape.fields.length
  "struct " ++ shape.type ++ " with " ++ String.ofList (Nat.toDigits 10 n) ++
    (if n = 1 then " element" else " elements")

/-- Finish a record that was written as an object. -/
def ofMembers (shape : Shape σ α) (record : σ) : Except Refusal α :=
  match shape.finish record with
  | .ok value => .ok value
  | .error name => mismatch (.missingField name)

/-- Finish a record that was written as an array. -/
def ofItems (shape : Shape σ α) (record : σ) : Except Refusal α :=
  match shape.finish record with
  | .ok value => .ok value
  | .error name =>
    mismatch (.invalidLength (shape.fields.findIdx fun f => f.name == name) shape.arrayForm)

/-- Decode an array in field order.  In a text, anything but the bracket behind
the last field is trouble of the text. -/
def decodeArray (shape : Shape σ α) (place : Place) (items : List Draft) (ending : Ending) :
    Except Refusal α := do
  let (record, excess) ← setItems place.inner shape.fields items shape.blank
  if items.length < shape.fields.length then
    orUnreadable (Draft.endingTrouble ending)
  let value ← shape.ofItems record
  if excess.isEmpty then
    orUnreadable (Draft.endingTrouble ending)
    return value
  else
    match place with
    | .text _ => .error (.unreadable .malformed)
    | _ => mismatch (.invalidLength items.length "fewer elements in array")

/-- Decode a record from either of its written forms. -/
def decode (shape : Shape σ α) : Decoder α := fun place draft =>
  match draft with
  | .object members ending => do
    let record ← setMembers shape.fields place.inner [] members shape.blank
    orUnreadable (Draft.endingTrouble ending)
    shape.ofMembers record
  | .array items ending => shape.decodeArray place items ending
  | other => wrongType ("struct " ++ shape.type) other

end Shape

/-- Decode members of a dictionary in document order; of equal keys the last one
stays. -/
def decodeEntries {α : Type} (decode : Decoder α) (place : Place) :
    List (Option String × Draft) → List (String × α) → Except Refusal (List (String × α))
  | [], entries => .ok entries
  | (none, _) :: _, _ => .error (.unreadable .malformed)
  | (some key, draft) :: rest, entries => do
    let value ← decode place draft
    decodeEntries decode place rest (insertMember key value entries)

/-- A dictionary with values of one type, sorted by key. -/
def dictionary {α : Type} (decode : Decoder α) : Decoder (List (String × α)) :=
  fun place draft =>
    match draft with
    | .object members ending => do
      let entries ← decodeEntries decode place.inner members []
      orUnreadable (Draft.endingTrouble ending)
      return entries
    | other => wrongType "a map" other

/-- Decode a text that is one value and nothing else. -/
def decodeText {α : Type} (decode : Decoder α) (s : String) : Except Refusal α := do
  let (draft, rest) := Draft.read s
  let value ← decode (.text 0) draft
  if Draft.isAtEnd rest then return value else .error (.unreadable .malformed)

/-- Decode an embedded value.  Its members are visited in the order of keys. -/
def decodeValue {α : Type} (decode : Decoder α) (value : Json) : Except Refusal α :=
  decode .embedded (Draft.ofJson value.sorted)

end CanvasPress.Json
