/-
# Reading selectors

A selector is read from the left.  White space between two parts means that the
former stands around the latter, unless a sign says otherwise.  A selector that
cannot be read, or that asks for what is not known here, picks nothing.
-/

import CanvasPress.Stylesheet.Scan
import CanvasPress.Stylesheet.Selector

namespace CanvasPress.Stylesheet

/-- A selector as it is being read. -/
structure Draft where
  /-- The parts so far, the last one first, each with its relation to the part in
  front of it. -/
  parts : List (Option Relation × Compound)
  /-- The relation of the part to come. -/
  relation : Option Relation
  /-- Whether a part has to come. -/
  waits : Bool
deriving Inhabited

namespace Draft

/-- Nothing has been read. -/
def start : Draft :=
  ⟨[], none, true⟩

/-- A part begins, with a name or without. -/
def begin (d : Draft) (name : Option String) : Draft :=
  ⟨(d.relation, ⟨name, []⟩) :: d.parts, none, false⟩

/-- A test belongs to the part that was begun, or begins one. -/
def test (d : Draft) (t : Test) : Draft :=
  match d.relation, d.parts with
  | none, (relation, part) :: rest =>
    ⟨(relation, { part with tests := part.tests ++ [t] }) :: rest, none, false⟩
  | _, _ => ⟨(d.relation, ⟨none, [t]⟩) :: d.parts, none, false⟩

/-- The next part is related in this way. -/
def relate (d : Draft) (r : Relation) : Draft :=
  ⟨d.parts, some r, true⟩

/-- The parts in front of a part, each with its relation to the part behind it. -/
def frontOf : Option Relation → List (Option Relation × Compound) →
    Option (List (Relation × Compound))
  | none, [] => some []
  | some r, (relation, part) :: rest => (frontOf relation rest).map fun front => (r, part) :: front
  | _, _ => none

/-- The selector that has been read. -/
def finish? (d : Draft) : Option Selector :=
  match d.waits, d.parts with
  | false, (relation, last) :: rest => (frontOf relation rest).map fun front => ⟨last, front⟩
  | _, _ => none

end Draft

/-- The states that elements of a drawing are never in. -/
def absentStates : List String :=
  ["link", "visited", "hover", "active", "focus"]

/-- The end of a test on an attribute whose name has been read. -/
def splitValueTest (s : List Char) : Found ValueTest :=
  let valued (make : String → ValueTest) (s : List Char) : Found ValueTest :=
    let value := splitString s
    match value.part, value.rest with
    | some v, ']' :: rest => ⟨some (make v), rest⟩
    | _, rest => ⟨none, rest⟩
  match s with
  | ']' :: rest => ⟨some .present, rest⟩
  | '=' :: rest => valued .equals rest
  | '~' :: '=' :: rest => valued .holds rest
  | '|' :: '=' :: rest => valued .begins rest
  | rest => ⟨none, rest⟩

/-- A test on the state or the language of an element, behind the colon. -/
def splitState (s : List Char) : Found Test :=
  let word := splitIdent s
  match word.part with
  | some "lang" =>
    match word.rest with
    | '(' :: rest =>
      match rest.dropWhile (· ≠ ')') with
      | _ :: behind =>
        ⟨if (rest.takeWhile (· ≠ ')')).all isBlank then none else some .never, behind⟩
      | [] => ⟨none, []⟩
    | rest => ⟨none, rest⟩
  | some "first-child" => ⟨some .firstChild, word.rest⟩
  | some name => ⟨if absentStates.contains name then some .never else none, word.rest⟩
  | none => ⟨none, word.rest⟩

/-- A test in front of a text. -/
def splitTest (s : List Char) : Found Test :=
  let named (make : String → Test) (s : List Char) : Found Test :=
    let name := splitIdent s
    ⟨name.part.map make, name.rest⟩
  match s with
  | '#' :: rest => named (fun v => .value "id" (.equals v)) rest
  | '.' :: rest => named (fun v => .value "class" (.holds v)) rest
  | ':' :: rest => splitState rest
  | '[' :: rest =>
    let name := splitIdent rest
    match name.part with
    | some n =>
      let test := splitValueTest name.rest
      ⟨test.part.map (.value n), test.rest⟩
    | none => ⟨none, name.rest⟩
  | rest => ⟨none, rest⟩

/-- Read on behind white space, comments skipped. -/
def skipBetween? : (fuel : Nat) → List Char → Option (List Char)
  | 0, s => some s
  | fuel + 1, s =>
    match s with
    | '/' :: '*' :: rest => (skipComment? rest).bind fun s => skipBetween? fuel (skipBlank s)
    | '/' :: _ => none
    | s => some s

/-- The selector in front of a text, up to a comma or a brace.  Each step takes a
character at least, so `fuel` bounds them. -/
def splitSelectorFrom : (fuel : Nat) → Draft → List Char → Found Selector
  | 0, d, s => ⟨d.finish?, s⟩
  | fuel + 1, d, s =>
    match s with
    | [] => ⟨d.finish?, []⟩
    | c :: rest =>
      if c = ',' || c = '{' then ⟨d.finish?, s⟩
      else if c = '*' then
        if d.waits then splitSelectorFrom fuel (d.begin none) rest else ⟨none, s⟩
      else if c = '#' || c = '.' || c = '[' || c = ':' then
        let test := splitTest s
        match test.part with
        | some t => splitSelectorFrom fuel (d.test t) test.rest
        | none => ⟨none, test.rest⟩
      else if c = '>' || c = '+' then
        if d.waits then ⟨none, s⟩
        else splitSelectorFrom fuel (d.relate (if c = '>' then .parent else .before)) rest
      else if isBlank c then
        if d.waits then splitSelectorFrom fuel d (skipBlank rest)
        else
          match skipBetween? rest.length (skipBlank rest) with
          | none => ⟨none, rest⟩
          | some [] => ⟨d.finish?, []⟩
          | some (e :: rest) =>
            if e = '>' || e = '+' || e = ',' || e = '{' then splitSelectorFrom fuel d (e :: rest)
            else splitSelectorFrom fuel (d.relate .around) (e :: rest)
      else if c = '/' then
        match rest with
        | '*' :: rest =>
          match skipComment? rest with
          | some rest => splitSelectorFrom fuel d rest
          | none => ⟨none, []⟩
        | _ => ⟨d.finish?, s⟩
      else
        let name := splitIdent s
        match name.part with
        | some n =>
          if d.waits then splitSelectorFrom fuel (d.begin (some n)) name.rest
          else ⟨none, name.rest⟩
        | none => ⟨none, name.rest⟩

/-- The selector in front of a text, up to a comma or a brace. -/
def splitSelector (s : List Char) : Found Selector :=
  splitSelectorFrom s.length .start s

end CanvasPress.Stylesheet
