/-
# Stylesheets

A stylesheet is a list of rules: a selector with declarations.  Rules count in
the order of their weight, and among rules of one weight in the order in which
they are written.  What cannot be read is skipped up to the end of its block.
-/

import CanvasPress.Stylesheet.Declaration
import CanvasPress.Stylesheet.Selector.Reader

namespace CanvasPress.Stylesheet

/-- A selector with its declarations. -/
structure Rule where
  selector : Selector
  declarations : List Declaration
deriving DecidableEq, Inhabited

/-- Rules in the order in which they count. -/
abbrev Sheet := List Rule

/-- Skip to the end of a block in which so many braces are open. -/
def skipBlock : (depth : Nat) → List Char → List Char
  | _, [] => []
  | depth, '{' :: rest => skipBlock (depth + 1) rest
  | 0, '}' :: rest => rest
  | 1, '}' :: rest => rest
  | depth + 2, '}' :: rest => skipBlock (depth + 1) rest
  | depth, _ :: rest => skipBlock depth rest

/-- Skip a rule that is not about elements. -/
def skipAtRule (s : List Char) : List Char :=
  let word := splitIdent s
  match word.part with
  | none => word.rest
  | some _ =>
    match word.rest.dropWhile fun c => c ≠ ';' && c ≠ '{' with
    | ';' :: rest => rest
    | rest => skipBlock 0 rest

/-- The selectors in front of a block, separated by commas.  One that cannot be
read ends the list unless a comma follows.  Each takes a character at least. -/
def splitSelectors : (fuel : Nat) → List Char → List Selector × List Char
  | 0, s => ([], s)
  | fuel + 1, s =>
    let found := splitSelector s
    match skipBlank found.rest with
    | ',' :: rest =>
      let (more, rest) := splitSelectors fuel rest
      (found.part.toList ++ more, rest)
    | '{' :: rest => (found.part.toList, '{' :: rest)
    | rest => (found.part.toList, rest.dropWhile (· ≠ '{'))

/-- Skip a character, if it comes first. -/
def skipChar (c : Char) (s : List Char) : List Char :=
  if s.head? = some c then s.drop 1 else s

/-- The rules of some selectors and the block behind them. -/
def splitRules (s : List Char) : List Rule × List Char :=
  let (selectors, s) := splitSelectors s.length s
  let s := skipChar '{' s
  let (declarations, whole, rest) := splitDeclarations s.length s
  (selectors.map fun selector => ⟨selector, declarations⟩,
    if whole then skipChar '}' rest else skipBlock 1 rest)

/-- The rules of a text, in the order in which they are written.  Each step takes
a character at least. -/
def rulesFrom : (fuel : Nat) → List Char → List Rule
  | 0, _ => []
  | fuel + 1, s =>
    match skipGap? s with
    | none => []
    | some [] => []
    | some ('@' :: rest) => rulesFrom fuel (skipAtRule rest)
    | some s =>
      let (rules, rest) := splitRules s
      rules ++ rulesFrom fuel rest

namespace Sheet

/-- The stylesheet of some texts. -/
def ofTexts (texts : List String) : Sheet :=
  ((texts.flatMap fun s => rulesFrom s.length s.toList).filter fun r =>
    !r.declarations.isEmpty).mergeSort fun r t => r.selector.weight ≤ t.selector.weight

/-- The declarations for an element, in the order in which they count. -/
def declarationsFor (sheet : Sheet) (site : Site) : List Declaration :=
  (sheet.filter fun r => r.selector.accepts site).flatMap Rule.declarations

end Sheet

end CanvasPress.Stylesheet
