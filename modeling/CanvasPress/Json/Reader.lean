/-
# Reading JSON text into drafts

The reader never fails: trouble becomes part of the draft.  Strings are read in
two steps, first into characters and UTF-16 code units as they are written, then
into text by pairing surrogates.  Numbers keep integers of 64 bits exact; other
numbers become doubles.
-/

import CanvasPress.Decimal.Power
import CanvasPress.Json.Draft
import CanvasPress.Text.Ascii
import CanvasPress.Text.Bytes

namespace CanvasPress.Json

open Decimal

/-- The white space of JSON. -/
def isSpace (c : Char) : Bool :=
  c = ' ' || c = '\n' || c = '\t' || c = '\r'

/-- Drop white space in front. -/
def skipSpace (s : List Char) : List Char :=
  s.dropWhile isSpace

namespace Reader

/-- A written element of a string: a character, or a code unit given by number. -/
inductive Piece where
  | char (c : Char)
  | unit (n : Nat)
deriving DecidableEq, Inhabited

/-- Where a string is being read. -/
inductive Mode where
  | plain
  /-- Behind a backslash. -/
  | escape
  /-- Inside a code unit: digits still to come, and the value of those read. -/
  | hex (left : Nat) (value : Nat)
deriving DecidableEq, Inhabited

/-- The character of a short escape. -/
def shortEscape? (c : Char) : Option Char :=
  if c = '"' then some '"'
  else if c = '\\' then some '\\'
  else if c = '/' then some '/'
  else if c = 'b' then some '\x08'
  else if c = 'f' then some '\x0c'
  else if c = 'n' then some '\n'
  else if c = 'r' then some '\r'
  else if c = 't' then some '\t'
  else none

/-- Fewer than four bytes are left. -/
def lacksFourBytes (s : List Char) : Bool :=
  Text.byteLength (s.take 4) < 4

/-- What a string was found to hold, how it ended if not with a quote, and the
rest of the text. -/
structure Spelling where
  pieces : List Piece
  trouble : Option Cause
  rest : List Char

/-- Put a piece in front. -/
def Spelling.cons (p : Piece) (s : Spelling) : Spelling :=
  ⟨p :: s.pieces, s.trouble, s.rest⟩

/-- Read the inside of a string up to its closing quote. -/
def spell : Mode → List Char → Spelling
  | _, [] => ⟨[], some .cutShort, []⟩
  | .plain, c :: rest =>
    if c = '"' then ⟨[], none, rest⟩
    else if c = '\\' then spell .escape rest
    else if c.toNat < 0x20 then ⟨[], some .malformed, rest⟩
    else (spell .plain rest).cons (.char c)
  | .escape, c :: rest =>
    if c = 'u' then
      if lacksFourBytes rest then ⟨[], some .cutShort, []⟩ else spell (.hex 3 0) rest
    else
      match shortEscape? c with
      | some d => (spell .plain rest).cons (.char d)
      | none => ⟨[], some .malformed, rest⟩
  | .hex left value, c :: rest =>
    match Text.hexValue? c with
    | none => ⟨[], some .malformed, rest⟩
    | some d =>
      match left with
      | 0 => (spell .plain rest).cons (.unit (16 * value + d))
      | n + 1 => spell (.hex n (16 * value + d)) rest

/-- Text made from pieces: `none` marks a lone surrogate.  A high surrogate that
is cut off by the end of the text is trouble of the ending, not of its own. -/
def assemble (cut : Bool) : List Piece → Option (List Char)
  | [] => some []
  | .char c :: rest => (assemble cut rest).map (c :: ·)
  | .unit n :: .unit m :: rest =>
    if 0xD800 ≤ n ∧ n < 0xDC00 ∧ 0xDC00 ≤ m ∧ m < 0xE000 then
      (assemble cut rest).map (Char.ofNat (0x10000 + (n - 0xD800) * 0x400 + (m - 0xDC00)) :: ·)
    else if 0xD800 ≤ n ∧ n < 0xE000 then none
    else (assemble cut (.unit m :: rest)).map (Char.ofNat n :: ·)
  | .unit n :: rest =>
    if 0xD800 ≤ n ∧ n < 0xDC00 ∧ rest.isEmpty ∧ cut then some []
    else if 0xD800 ≤ n ∧ n < 0xE000 then none
    else (assemble cut rest).map (Char.ofNat n :: ·)

/-- The draft of a string, behind its opening quote. -/
def text (s : List Char) : Draft × List Char :=
  let found := spell .plain s
  match found.trouble, assemble found.trouble.isSome found.pieces with
  | none, some cs => (.text (String.ofList cs), found.rest)
  | none, none => (.unreadable .malformed none, found.rest)
  | some cause, some _ => (.broken cause, found.rest)
  | some cause, none => (.unreadable .malformed (some cause), found.rest)

/-- A decimal number from its digits. -/
def digitsValue (digits : List Char) : Nat :=
  digits.foldl (fun n c => 10 * n + (c.toNat - 48)) 0

/-- Take digits into a significand while it stays below `2 ^ 64`.  The second
component counts the digits taken. -/
def takeDigits (significand : Nat) (digits : List Char) : Nat × Nat :=
  match digits with
  | [] => (significand, 0)
  | c :: rest =>
    let next := 10 * significand + (c.toNat - 48)
    if next < twoTo 64 then
      let (n, taken) := takeDigits next rest
      (n, taken + 1)
    else (significand, 0)

/-- The double of a number written with these whole digits, fraction digits and
exponent. -/
def double (negative : Bool) (whole fraction : List Char) (exponent : Int) : Draft :=
  let (significand, used) := takeDigits 0 whole
  let dropped := whole.length - used
  let (significand, places) := takeDigits significand fraction
  match Binary64.ofDecimal significand (dropped - places + exponent) with
  | some x => .float (x.withSign negative)
  | none => .unreadable .malformed none

/-- An integer of 64 bits, or the double nearest to it. -/
def integer (negative : Bool) (digits : List Char) : Draft :=
  let n := digitsValue digits
  if negative then
    if 0 < n ∧ n ≤ twoTo 63 then .integer (-n) else double true digits [] 0
  else if n < twoTo 64 then .integer n
  else double false digits [] 0

/-- Trouble with a number: it ends in front of a digit that must come. -/
def lacksDigit (rest : List Char) : Draft × List Char :=
  if rest.isEmpty then (.unreadable .cutShort (some .malformed), []) else (.broken .malformed, rest)

/-- The exponent of a number, behind its letter. -/
def exponent (negative : Bool) (whole fraction : List Char) (s : List Char) :
    Draft × List Char :=
  let (minus, s) := match s with
    | '+' :: rest => (false, rest)
    | '-' :: rest => (true, rest)
    | rest => (false, rest)
  let digits := s.takeWhile Char.isDigit
  let rest := s.dropWhile Char.isDigit
  if digits.isEmpty then lacksDigit rest
  else
    let e : Int := digitsValue digits
    (double negative whole fraction (if minus then -e else e), rest)

/-- The end of a number whose whole digits are read. -/
def fraction (negative : Bool) (whole : List Char) (s : List Char) : Draft × List Char :=
  match s with
  | '.' :: rest =>
    let digits := rest.takeWhile Char.isDigit
    let rest := rest.dropWhile Char.isDigit
    if digits.isEmpty then lacksDigit rest
    else
      match rest with
      | 'e' :: rest => exponent negative whole digits rest
      | 'E' :: rest => exponent negative whole digits rest
      | rest => (double negative whole digits 0, rest)
  | 'e' :: rest => exponent negative whole [] rest
  | 'E' :: rest => exponent negative whole [] rest
  | rest => (integer negative whole, rest)

/-- A number, behind its sign. -/
def number (negative : Bool) (s : List Char) : Draft × List Char :=
  match s with
  | '0' :: rest =>
    if (rest.head?.map Char.isDigit).getD false then (.broken .malformed, rest)
    else fraction negative ['0'] rest
  | rest =>
    let digits := rest.takeWhile Char.isDigit
    if digits.isEmpty then lacksDigit rest
    else fraction negative digits (rest.dropWhile Char.isDigit)

/-- A literal, behind its first letter. -/
def literal (value : Draft) : List Char → List Char → Draft × List Char
  | [], s => (value, s)
  | _ :: _, [] => (.broken .cutShort, [])
  | c :: more, d :: rest => if c = d then literal value more rest else (.broken .malformed, rest)

/-- A value that is neither string nor container. -/
def scalar : List Char → Draft × List Char
  | [] => (.broken .cutShort, [])
  | c :: rest =>
    if c = 'n' then literal .null ['u', 'l', 'l'] rest
    else if c = 't' then literal (.bool true) ['r', 'u', 'e'] rest
    else if c = 'f' then literal (.bool false) ['a', 'l', 's', 'e'] rest
    else if c = '-' then number true rest
    else if c.isDigit then number false (c :: rest)
    else (.broken .malformed, rest)

/-- The ending of an object that has something else than a key in first place. -/
def strayEnding (s : List Char) : Ending :=
  match s with
  | '[' :: _ => .stray .array
  | '\x7b' :: _ => .stray .object
  | _ =>
    match (scalar s).1 with
    | .null => .stray .null
    | .bool b => .stray (.bool b)
    | .integer n => .stray (.integer n)
    | .float x => .stray (.float x)
    | .unreadable cause _ => .cut false cause
    | _ => .cut false .malformed

mutual

/-- A value.  The fuel bounds the number of nested calls. -/
def value : Nat → List Char → Draft × List Char
  | 0, s => (.broken .cutShort, s)
  | fuel + 1, s =>
    match skipSpace s with
    | '"' :: rest => text rest
    | '[' :: rest =>
      match skipSpace rest with
      | [] => (.array [] (.cut false .cutShort), [])
      | ']' :: rest => (.array [] .closed, rest)
      | rest =>
        let (found, ending, rest) := items fuel rest
        (.array found ending, rest)
    | '\x7b' :: rest =>
      match skipSpace rest with
      | [] => (.object [] (.cut false .cutShort), [])
      | '\x7d' :: rest => (.object [] .closed, rest)
      | '"' :: rest =>
        let (found, ending, rest) := members fuel rest
        (.object found ending, rest)
      | rest => (.object [] (strayEnding rest), rest)
    | rest => scalar rest

/-- The items of an array, from the first one to the bracket. -/
def items : Nat → List Char → List Draft × Ending × List Char
  | 0, s => ([], .cut false .cutShort, s)
  | fuel + 1, s =>
    let (item, rest) := value fuel s
    match skipSpace rest with
    | [] => ([item], .cut false .cutShort, [])
    | ']' :: rest => ([item], .closed, rest)
    | ',' :: rest =>
      match skipSpace rest with
      | ']' :: rest => ([item, .broken .malformed], .cut true .malformed, rest)
      | rest =>
        let (more, ending, rest) := items fuel rest
        (item :: more, ending, rest)
    | rest => ([item], .cut false .malformed, rest)

/-- The members of an object, from behind the quote of the first key to the
bracket. -/
def members : Nat → List Char → List (Option String × Draft) × Ending × List Char
  | 0, s => ([], .cut false .cutShort, s)
  | fuel + 1, s =>
    match text s with
    | (.unreadable reading (some skipping), rest) =>
      if reading = skipping then ([], .cut true skipping, rest)
      else ([(none, .broken skipping)], .cut true skipping, rest)
    | (key, rest) =>
      let key := match key with
        | .text k => some k
        | _ => none
      match skipSpace rest with
      | [] => ([(key, .broken .cutShort)], .cut false .cutShort, [])
      | ':' :: rest =>
        let (item, rest) := value fuel rest
        match skipSpace rest with
        | [] => ([(key, item)], .cut false .cutShort, [])
        | '\x7d' :: rest => ([(key, item)], .closed, rest)
        | ',' :: rest =>
          match skipSpace rest with
          | [] => ([(key, item)], .cut true .cutShort, [])
          | '"' :: rest =>
            let (more, ending, rest) := members fuel rest
            ((key, item) :: more, ending, rest)
          | rest => ([(key, item)], .cut true .malformed, rest)
        | rest => ([(key, item)], .cut false .malformed, rest)
      | rest => ([(key, .broken .malformed)], .cut false .malformed, rest)

end

end Reader

namespace Draft

/-- Read a text: the draft of its value and what stands behind it. -/
def read (s : String) : Draft × List Char :=
  let chars := s.toList
  Reader.value (2 * chars.length + 2) chars

/-- Whether only white space stands behind a value. -/
def isAtEnd (rest : List Char) : Bool :=
  rest.all isSpace

end Draft

/-- Read a text that is one whole JSON value. -/
def read? (s : String) : Except Cause Json := do
  let (draft, rest) := Draft.read s
  let value ← draft.close 0
  if Draft.isAtEnd rest then return value else throw .malformed

end CanvasPress.Json
