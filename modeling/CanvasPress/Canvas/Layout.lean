/-
# Block layouts

Each kind of canvas has a fixed arrangement of titled blocks in a coordinate
space of 1200 by 800 units.  A block shows the section with its key.
-/

import CanvasPress.Canvas.Kind

namespace CanvasPress

/-- A titled block at a place of the canvas. -/
structure Block where
  key : String
  /-- The title as it stands in markup. -/
  title : String
  x : Nat
  y : Nat
  width : Nat
  height : Nat
deriving DecidableEq

namespace Layout

/-- Width of the coordinate space. -/
def width : Nat := 1200

/-- Height of the coordinate space. -/
def height : Nat := 800

/-- The blocks of the business model canvas. -/
def businessModel : List Block :=
  [⟨"key_partners", "Key Partners", 20, 80, 232, 470⟩,
    ⟨"key_activities", "Key Activities", 252, 80, 232, 235⟩,
    ⟨"key_resources", "Key Resources", 252, 315, 232, 235⟩,
    ⟨"value_propositions", "Value Propositions", 484, 80, 232, 470⟩,
    ⟨"customer_relationships", "Customer Relationships", 716, 80, 232, 235⟩,
    ⟨"channels", "Channels", 716, 315, 232, 235⟩,
    ⟨"customer_segments", "Customer Segments", 948, 80, 232, 470⟩,
    ⟨"cost_structure", "Cost Structure", 20, 560, 580, 220⟩,
    ⟨"revenue_streams", "Revenue Streams", 600, 560, 580, 220⟩]

/-- The blocks of the value proposition canvas. -/
def valueProposition : List Block :=
  [⟨"products_services", "Products &amp; Services", 20, 80, 280, 700⟩,
    ⟨"gain_creators", "Gain Creators", 300, 80, 290, 350⟩,
    ⟨"pain_relievers", "Pain Relievers", 300, 430, 290, 350⟩,
    ⟨"gains", "Gains", 610, 80, 290, 350⟩,
    ⟨"pains", "Pains", 610, 430, 290, 350⟩,
    ⟨"customer_jobs", "Customer Jobs", 900, 80, 280, 700⟩]

/-- The blocks of the testing canvas. -/
def testingBusinessIdeas : List Block :=
  [⟨"hypothesis", "Hypothesis", 20, 80, 386, 350⟩,
    ⟨"experiment", "Experiment", 406, 80, 386, 350⟩,
    ⟨"metrics", "Metrics", 792, 80, 386, 350⟩,
    ⟨"success_criteria", "Success Criteria", 20, 430, 386, 350⟩,
    ⟨"learnings", "Learnings", 406, 430, 386, 350⟩,
    ⟨"next_steps", "Next Steps", 792, 430, 386, 350⟩]

/-- The blocks of a kind, in drawing order. -/
def blocks : Kind → List Block
  | .businessModel => businessModel
  | .valueProposition => valueProposition
  | .testingBusinessIdeas => testingBusinessIdeas

/-- The keys of the sections that a kind has blocks for. -/
def keys (kind : Kind) : List String :=
  (blocks kind).map (·.key)

end Layout

end CanvasPress
