/-
# Scanning markup

The steps in which the parts in front of the outermost element are read.  Each
takes a text and gives back what stands behind the part, if the part is there.
-/

import CanvasPress.Markup.Name

namespace CanvasPress.Markup

/-- What stands behind a text, if the list begins with it. -/
def after? : List Char → List Char → Option (List Char)
  | [], s => some s
  | _ :: _, [] => none
  | p :: ps, c :: rest => if p = c then after? ps rest else none

/-- What stands behind a word, if the list begins with it. -/
def afterWord? (word : String) (s : List Char) : Option (List Char) :=
  after? word.toList s

/-- Skip white space. -/
def skipSpace (s : List Char) : List Char :=
  s.dropWhile isSpace

/-- Skip white space that must not be missing. -/
def skipGap? : List Char → Option (List Char)
  | [] => none
  | c :: rest => if isSpace c then some (skipSpace rest) else none

/-- Split off a name, which may hold colons anywhere. -/
def splitName? (s : List Char) : Option (List Char × List Char) :=
  match s with
  | [] => none
  | c :: _ =>
    if isNameStart c || c = ':' then
      some (s.takeWhile isQualifiedChar, s.dropWhile isQualifiedChar)
    else none

/-- Split off a text in quotes of either kind. -/
def splitQuoted? : List Char → Option (List Char × List Char)
  | [] => none
  | quote :: rest =>
    if quote = '"' ∨ quote = '\'' then
      match rest.dropWhile (· ≠ quote) with
      | _ :: behind => some (rest.takeWhile (· ≠ quote), behind)
      | [] => none
    else none

/-- Skip to the first closing mark and behind it. -/
def skipPast? (mark : String) : List Char → Option (List Char)
  | [] => none
  | c :: rest =>
    match afterWord? mark (c :: rest) with
    | some behind => some behind
    | none => if isLegal c then skipPast? mark rest else none

/-- Skip the rest of a comment, in which two hyphens stand only at the end. -/
def skipComment? : List Char → Option (List Char)
  | [] => none
  | [_] => none
  | '-' :: '-' :: rest => afterWord? ">" rest
  | c :: rest => if isLegal c then skipComment? rest else none

/-- Skip the rest of an instruction, which is no declaration. -/
def skipInstruction? (s : List Char) : Option (List Char) :=
  if (afterWord? "xml " s).isSome then none
  else (splitName? s).bind fun part => skipPast? "?>" part.2

/-- Skip white space, comments and instructions.  There are no more of them than
characters, so the number `fuel` of characters is enough. -/
def skipAsides? : (fuel : Nat) → List Char → Option (List Char)
  | 0, s => some (skipSpace s)
  | fuel + 1, s =>
    let s := skipSpace s
    match afterWord? "<!--" s with
    | some rest => (skipComment? rest).bind (skipAsides? fuel)
    | none =>
      match afterWord? "<?" s with
      | some rest => (skipInstruction? rest).bind (skipAsides? fuel)
      | none => some s

end CanvasPress.Markup
