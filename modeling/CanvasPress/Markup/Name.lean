/-
# Names in markup

Which characters markup may hold at all, which of them form names, and how a
name splits into the prefix of its namespace and the rest.
-/

namespace CanvasPress.Markup

/-- The white space that separates the parts of a tag. -/
def isSpace (c : Char) : Bool :=
  c = ' ' || c = '\n' || c = '\t' || c = '\r'

/-- A character that markup may hold: no control character other than white
space, and neither of the two noncharacters that close the first plane. -/
def isLegal (c : Char) : Bool :=
  isSpace c || (0x20 ≤ c.toNat && c.toNat ≠ 0xFFFE && c.toNat ≠ 0xFFFF)

/-- The ranges of characters that may begin a name, the colon aside. -/
def nameStartRanges : List (Nat × Nat) :=
  [(0x41, 0x5A), (0x5F, 0x5F), (0x61, 0x7A), (0xC0, 0xD6), (0xD8, 0xF6), (0xF8, 0x2FF),
    (0x370, 0x37D), (0x37F, 0x1FFF), (0x200C, 0x200D), (0x2070, 0x218F), (0x2C00, 0x2FEF),
    (0x3001, 0xD7FF), (0xF900, 0xFDCF), (0xFDF0, 0xFFFD), (0x10000, 0xEFFFF)]

/-- The ranges of the other characters that a name may hold. -/
def nameRanges : List (Nat × Nat) :=
  [(0x2D, 0x2E), (0x30, 0x39), (0xB7, 0xB7), (0x300, 0x36F), (0x203F, 0x2040)]

/-- Whether a character lies in one of the ranges. -/
def within (ranges : List (Nat × Nat)) (c : Char) : Bool :=
  ranges.any fun r => r.1 ≤ c.toNat && c.toNat ≤ r.2

/-- A character that may begin a name or its local part. -/
def isNameStart (c : Char) : Bool :=
  within nameStartRanges c

/-- A character of a name, the colon aside. -/
def isNameChar (c : Char) : Bool :=
  isNameStart c || within nameRanges c

/-- A character of a qualified name. -/
def isQualifiedChar (c : Char) : Bool :=
  c = ':' || isNameChar c

/-- A name with the prefix that tells its namespace; the prefix may be empty. -/
structure QName where
  pref : String
  base : String
deriving DecidableEq, Inhabited

namespace QName

/-- A text that may stand on one side of the colon. -/
def isPart (s : List Char) : Bool :=
  (s.head?.map isNameStart).getD false

/-- The qualified name that is written by these characters: at most one colon,
a local part, and both parts begin as a name does. -/
def ofChars? (s : List Char) : Option QName :=
  let front := s.takeWhile (· ≠ ':')
  match s.dropWhile (· ≠ ':') with
  | [] => if isPart s then some ⟨"", String.ofList s⟩ else none
  | _ :: behind =>
    if (front.isEmpty || isPart front) && isPart behind && !behind.contains ':' then
      some ⟨String.ofList front, String.ofList behind⟩
    else none

end QName

end CanvasPress.Markup
