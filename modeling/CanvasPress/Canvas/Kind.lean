/-
# Kinds of canvas

The three kinds of business canvas.  Names in documents are exact; names given
by people are looked up without regard to ASCII case.
-/

import CanvasPress.Text.Ascii

namespace CanvasPress

/-- The kind of business canvas being rendered. -/
inductive Kind where
  | valueProposition
  | businessModel
  | testingBusinessIdeas
deriving DecidableEq, Inhabited

namespace Kind

/-- Every kind. -/
def all : List Kind :=
  [.valueProposition, .businessModel, .testingBusinessIdeas]

/-- The name used in documents and in names of template files. -/
def name : Kind → String
  | .valueProposition => "valueProposition"
  | .businessModel => "businessModel"
  | .testingBusinessIdeas => "testingBusinessIdeas"

/-- The title of a canvas that brings none of its own. -/
def displayName : Kind → String
  | .valueProposition => "Value Proposition Canvas"
  | .businessModel => "Business Model Canvas"
  | .testingBusinessIdeas => "Testing Business Ideas"

/-- The kind taken when none is named. -/
def fallback : Kind :=
  .businessModel

/-- The kind with a name, up to ASCII case. -/
def ofName? (name : String) : Option Kind :=
  all.find? fun kind => Text.sameAscii kind.name name

/-- The kind with a name, or the fallback when the name is unknown. -/
def ofName (name : String) : Kind :=
  (ofName? name).getD fallback

end Kind

end CanvasPress
