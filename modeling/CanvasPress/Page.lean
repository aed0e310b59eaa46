/-
# Pages

The document engine prints a page of HTML that shows one picture on a sheet of
A4 in landscape.
-/

import CanvasPress.Decimal.Shortest

namespace CanvasPress

open Decimal

/-- The size of a sheet in inches. -/
structure PageSize where
  width : Binary64
  height : Binary64
deriving DecidableEq, Inhabited

/-- A4 in landscape: 11.69 by 8.27 inches. -/
def PageSize.a4Landscape : PageSize where
  width := (Binary64.ofDecimal 1169 (-2)).getD (.zero false)
  height := (Binary64.ofDecimal 827 (-2)).getD (.zero false)

/-- The page in front of the picture. -/
def Page.head : String :=
  "<!DOCTYPE html>\n<html>\n<head>\n<meta charset=\"utf-8\">\n<style>\n" ++
    "@page \x7b size: A4 landscape; margin: 0; \x7d\n" ++
    "html, body \x7b margin: 0; padding: 0; \x7d\n" ++
    "body > svg \x7b display: block; width: 100vw; height: 100vh; \x7d\n" ++
    "</style>\n</head>\n<body>"

/-- The page behind the picture. -/
def Page.foot : String :=
  "</body>\n</html>"

/-- The page that shows a picture. -/
def Page.around (picture : String) : String :=
  Page.head ++ picture ++ Page.foot

end CanvasPress
