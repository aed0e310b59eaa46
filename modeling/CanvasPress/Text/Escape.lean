/-
# Character entities

Text that enters markup has its five significant characters written as
entities.  `unescape` reads the entities back from left to right, and `IsSafe`
describes the texts that escaping produces without referring to it.
-/

namespace CanvasPress.Text

/-- The written form of one character. -/
def escapeChar (c : Char) : List Char :=
  if c = '&' then "&amp;".toList
  else if c = '<' then "&lt;".toList
  else if c = '>' then "&gt;".toList
  else if c = '"' then "&quot;".toList
  else if c = '\'' then "&#39;".toList
  else [c]

/-- Write every significant character of a text as its entity. -/
def escapeList (s : List Char) : List Char :=
  s.flatMap escapeChar

/-- Write every significant character of a string as its entity. -/
def escape (s : String) : String :=
  String.ofList (escapeList s.toList)

/-- Replace the five entities, from left to right, by what they stand for. -/
def unescapeList : List Char → List Char
  | '&' :: 'a' :: 'm' :: 'p' :: ';' :: rest => '&' :: unescapeList rest
  | '&' :: 'l' :: 't' :: ';' :: rest => '<' :: unescapeList rest
  | '&' :: 'g' :: 't' :: ';' :: rest => '>' :: unescapeList rest
  | '&' :: 'q' :: 'u' :: 'o' :: 't' :: ';' :: rest => '"' :: unescapeList rest
  | '&' :: '#' :: '3' :: '9' :: ';' :: rest => '\'' :: unescapeList rest
  | c :: rest => c :: unescapeList rest
  | [] => []

/-- The entities that escaping writes. -/
def entities : List (List Char) :=
  ["&amp;".toList, "&lt;".toList, "&gt;".toList, "&quot;".toList, "&#39;".toList]

/-- No bare angle bracket or quote, and every ampersand starts an entity. -/
def IsSafe (s : List Char) : Prop :=
  (∀ c ∈ s, c ≠ '<' ∧ c ≠ '>' ∧ c ≠ '"' ∧ c ≠ '\'') ∧
    ∀ before behind, s = before ++ '&' :: behind →
      ∃ entity ∈ entities, entity.isPrefixOf ('&' :: behind)

end CanvasPress.Text
