/-
# References in markup

Between an ampersand and a semicolon stands the number of a legal character or a
name.  Five names stand for characters whatever the document type says; the
others stand for texts that it defines.
-/

import CanvasPress.Decimal.Power
import CanvasPress.Markup.Name
import CanvasPress.Text.Ascii

namespace CanvasPress.Markup

/-- What a reference means. -/
inductive Reference where
  | character (c : Char)
  | entity (name : List Char)
deriving DecidableEq, Inhabited

namespace Reference

/-- The five characters that have names. -/
def namedCharacters : List (String × Char) :=
  [("quot", '"'), ("amp", '&'), ("apos", '\''), ("lt", '<'), ("gt", '>')]

/-- The value of digits in a base, if there is a digit and all are digits. -/
def numberOf? (base : Nat) (digits : List Char) : Option Nat :=
  if digits.isEmpty then none
  else
    digits.foldlM
      (fun n c => do
        let d ← Text.hexValue? c
        if d < base then some (base * n + d) else none)
      0

/-- The character with a number.  Numbers that no character has stand for the
replacement character; numbers of more than 32 bits are refused. -/
def charOfNumber? (n : Nat) : Option Char :=
  if twoTo 32 ≤ n then none
  else
    let c := if n.isValidChar then Char.ofNat n else '\uFFFD'
    if isLegal c then some c else none

/-- What a name stands for. -/
def ofName? (name : List Char) : Option Reference :=
  match namedCharacters.find? fun entry => entry.1 == String.ofList name with
  | some entry => some (.character entry.2)
  | none =>
    match name with
    | [] => none
    | c :: rest =>
      if (isNameStart c || c = ':') && rest.all isQualifiedChar then some (.entity name) else none

/-- What is meant by the text between ampersand and semicolon. -/
def ofChars? : List Char → Option Reference
  | '#' :: 'x' :: digits => ((numberOf? 16 digits).bind charOfNumber?).map .character
  | '#' :: digits => ((numberOf? 10 digits).bind charOfNumber?).map .character
  | name => ofName? name

end Reference

end CanvasPress.Markup
