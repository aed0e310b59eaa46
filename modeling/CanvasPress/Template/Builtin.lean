/-
# Built-in templates

Every kind has a template in every theme: a heading with title, date and rule,
and one framed group for each block of the layout, with a slot under the
block's key.
-/

import CanvasPress.Canvas.Layout
import CanvasPress.Text.Number
import CanvasPress.Theme

namespace CanvasPress

/-! ## Templates in pieces

A template is text with slots, and a slot is written as its name between double
braces.  `Piece` is the view in which the built-in templates are built; written
out, it is the text in which slots are found again by `Template.scan`.
-/

/-- A piece of a template. -/
inductive Piece where
  | text (content : String)
  | slot (name : String)
deriving DecidableEq

namespace Piece

/-- A slot as it is written. -/
def slotText (name : String) : String :=
  "\x7b\x7b" ++ name ++ "\x7d\x7d"

/-- One piece as it is written. -/
def write : Piece → String
  | .text content => content
  | .slot name => slotText name

/-- Pieces written one after the other. -/
def writeAll (pieces : List Piece) : String :=
  String.join (pieces.map write)

end Piece

/-! ## The templates -/

namespace Template

open Text

/-- The pieces in front of the blocks. -/
def opening (theme : Theme) : List Piece :=
  [.text "<svg xmlns=\"http://www.w3.org/2000/svg\" width=\"",
    .slot "width",
    .text "\" height=\"",
    .slot "height",
    .text ("\" viewBox=\"0 0 " ++ decimal Layout.width ++ " " ++ decimal Layout.height ++
      "\" preserveAspectRatio=\"xMidYMid meet\" font-family=\"" ++ theme.fontFamily ++
      "\">\n  "),
    .slot "metadata",
    .text ("\n  <rect x=\"0\" y=\"0\" width=\"" ++ decimal Layout.width ++ "\" height=\"" ++
      decimal Layout.height ++ "\" fill=\"" ++ theme.background ++
      "\"/>\n  <text x=\"20\" y=\"44\" font-size=\"28\" font-weight=\"bold\" fill=\"" ++
      theme.heading ++ "\">"),
    .slot "title",
    .text ("</text>\n  <text x=\"1180\" y=\"44\" font-size=\"12\" text-anchor=\"end\" fill=\"" ++
      theme.text ++ "\">Generated "),
    .slot "generatedAt",
    .text ("</text>\n  <line x1=\"20\" y1=\"62\" x2=\"1180\" y2=\"62\" stroke=\"" ++
      theme.accent ++ "\" stroke-width=\"2\"/>\n")]

/-- The pieces of one block. -/
def blockPieces (theme : Theme) (block : Block) : List Piece :=
  [.text ("  <g id=\"block-" ++ block.key ++ "\" transform=\"translate(" ++ decimal block.x ++
      "," ++ decimal block.y ++ ")\">\n    <rect x=\"0\" y=\"0\" width=\"" ++
      decimal block.width ++ "\" height=\"" ++ decimal block.height ++ "\" rx=\"6\" fill=\"" ++
      theme.panel ++ "\" stroke=\"" ++ theme.stroke ++
      "\" stroke-width=\"1.5\"/>\n    <text x=\"16\" y=\"30\" font-size=\"17\"" ++
      " font-weight=\"bold\" fill=\"" ++ theme.heading ++ "\">" ++ block.title ++
      "</text>\n    <g font-size=\"14\" fill=\"" ++ theme.text ++ "\">"),
    .slot block.key,
    .text "</g>\n  </g>\n"]

/-- The pieces of the built-in template of a kind in a theme. -/
def builtinPieces (kind : Kind) (theme : Theme) : List Piece :=
  opening theme ++ (Layout.blocks kind).flatMap (blockPieces theme) ++ [.text "</svg>\n"]

/-- The built-in template of a kind in a theme. -/
def builtin (kind : Kind) (theme : Theme) : String :=
  Piece.writeAll (builtinPieces kind theme)

end Template

end CanvasPress
