/-
# Writing JSON

`Json.compact` writes a value without any space, `Json.pretty` with two spaces
for each level.  Strings escape quotes, backslashes and the controls below
`U+0020`, five of them in their short form; every other character stands for
itself.
-/

import CanvasPress.Decimal.Shortest
import CanvasPress.Json.Basic

namespace CanvasPress.Json

open Decimal

/-- A lower-case hexadecimal digit. -/
def hexDigit (n : Nat) : Char :=
  if n < 10 then Char.ofNat (48 + n) else Char.ofNat (87 + n)

/-- The written form of one character inside a string. -/
def writeChar (c : Char) : List Char :=
  if c = '"' then ['\\', '"']
  else if c = '\\' then ['\\', '\\']
  else if c = '\x08' then ['\\', 'b']
  else if c = '\x0c' then ['\\', 'f']
  else if c = '\n' then ['\\', 'n']
  else if c = '\r' then ['\\', 'r']
  else if c = '\t' then ['\\', 't']
  else if c.toNat < 0x20 then
    ['\\', 'u', '0', '0', hexDigit (c.toNat / 16), hexDigit (c.toNat % 16)]
  else [c]

/-- A string between its quotes. -/
def writeText (s : String) : List Char :=
  '"' :: s.toList.flatMap writeChar ++ ['"']

/-- An integer in decimal. -/
def writeInteger (n : Int) : List Char :=
  if n < 0 then '-' :: Nat.toDigits 10 n.natAbs else Nat.toDigits 10 n.natAbs

/-- A value that holds no other values. -/
def writeScalar : Json → List Char
  | .null => "null".toList
  | .bool true => "true".toList
  | .bool false => "false".toList
  | .integer n => writeInteger n
  | .float x => (x.text Style.message).toList
  | .text s => writeText s
  | .array _ => []
  | .object _ => []

mutual

/-- A value without spaces. -/
def write : Json → List Char
  | .array items => '[' :: writeItems items ++ [']']
  | .object members => '\x7b' :: writeMembers members ++ ['\x7d']
  | scalar => writeScalar scalar

/-- Items separated by commas. -/
def writeItems : List Json → List Char
  | [] => []
  | [item] => write item
  | item :: next :: rest => write item ++ ',' :: writeItems (next :: rest)

/-- Members separated by commas. -/
def writeMembers : List (String × Json) → List Char
  | [] => []
  | [(key, value)] => writeText key ++ ':' :: write value
  | (key, value) :: next :: rest =>
    writeText key ++ ':' :: write value ++ ',' :: writeMembers (next :: rest)

end

/-- The compact text of a value. -/
def compact (value : Json) : String :=
  String.ofList (write value)

/-- A line break followed by the indentation of a level. -/
def newLine (level : Nat) : List Char :=
  '\n' :: List.replicate (2 * level) ' '

mutual

/-- A value spread over lines, its first line already indented. -/
def spread (level : Nat) : Json → List Char
  | .array [] => ['[', ']']
  | .array (item :: rest) =>
    '[' :: spreadItems (level + 1) (item :: rest) ++ newLine level ++ [']']
  | .object [] => ['\x7b', '\x7d']
  | .object (member :: rest) =>
    '\x7b' :: spreadMembers (level + 1) (member :: rest) ++ newLine level ++ ['\x7d']
  | scalar => writeScalar scalar

/-- Items on lines of their own. -/
def spreadItems (level : Nat) : List Json → List Char
  | [] => []
  | [item] => newLine level ++ spread level item
  | item :: next :: rest =>
    newLine level ++ spread level item ++ ',' :: spreadItems level (next :: rest)

/-- Members on lines of their own. -/
def spreadMembers (level : Nat) : List (String × Json) → List Char
  | [] => []
  | [(key, value)] => newLine level ++ writeText key ++ ':' :: ' ' :: spread level value
  | (key, value) :: next :: rest =>
    newLine level ++ writeText key ++ ':' :: ' ' :: spread level value ++
      ',' :: spreadMembers level (next :: rest)

end

/-- The text of a value spread over lines. -/
def pretty (value : Json) : String :=
  String.ofList (spread 0 value)

end CanvasPress.Json
