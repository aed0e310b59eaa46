/-
# Themes

A theme is a palette and a choice of fonts.  A name that no theme has selects
the default theme, never an error.
-/

import CanvasPress.Colour

namespace CanvasPress

/-- Palette and typography of a canvas.  Colours are written `#rrggbb`. -/
structure Theme where
  name : String
  background : String
  panel : String
  stroke : String
  heading : String
  text : String
  accent : String
  fontFamily : String
deriving DecidableEq

namespace Theme

/-- White and blue, for print. -/
def professional : Theme where
  name := "professional"
  background := "#ffffff"
  panel := "#f8fafc"
  stroke := "#1e3a5f"
  heading := "#1e3a5f"
  text := "#334155"
  accent := "#2563eb"
  fontFamily := "Helvetica, Arial, sans-serif"

/-- Light on dark. -/
def modern : Theme where
  name := "modern"
  background := "#0f172a"
  panel := "#1e293b"
  stroke := "#38bdf8"
  heading := "#f8fafc"
  text := "#e2e8f0"
  accent := "#38bdf8"
  fontFamily := "Inter, Helvetica, Arial, sans-serif"

/-- Greys on white. -/
def minimal : Theme where
  name := "minimal"
  background := "#ffffff"
  panel := "#ffffff"
  stroke := "#d4d4d4"
  heading := "#171717"
  text := "#404040"
  accent := "#171717"
  fontFamily := "Georgia, serif"

/-- Every theme; names are looked up in this order. -/
def all : List Theme :=
  [professional, modern, minimal]

/-- The theme taken when a name is unknown. -/
def standard : Theme :=
  professional

/-- The theme with a name, up to ASCII case, or the standard theme. -/
def ofName (name : String) : Theme :=
  (all.find? fun theme => Text.sameAscii theme.name name).getD standard

/-- The background as a colour. -/
def backdrop (theme : Theme) : Colour :=
  (Colour.ofHex? theme.background).getD .white

end Theme

end CanvasPress
