/-
# Bitmaps

The colours of all pixels of a picture, row by row, and the bytes in which
encoders write them.
-/

import CanvasPress.Colour

namespace CanvasPress.Raster

/-- The colours of all pixels. -/
structure Bitmap where
  width : Nat
  height : Nat
  /-- The rows from the top, each from the left. -/
  rows : Array (Array Colour)
deriving Inhabited

/-- The colour of a pixel.  Beyond the edges the nearest pixel counts. -/
def Bitmap.colourAt (b : Bitmap) (x y : Nat) : Colour :=
  let row := b.rows.getD (min y (b.height - 1)) #[]
  row.getD (min x (b.width - 1)) default

/-- The three bytes of a colour. -/
def pushColour (bytes : ByteArray) (c : Colour) : ByteArray :=
  ((bytes.push c.red.toUInt8).push c.green.toUInt8).push c.blue.toUInt8

/-- Append the bytes of numbers below 256. -/
def pushAll (bytes : ByteArray) (numbers : List Nat) : ByteArray :=
  numbers.foldl (fun bytes n => bytes.push n.toUInt8) bytes

/-- Append a number of 16 bits, the high byte first. -/
def pushShort (bytes : ByteArray) (n : Nat) : ByteArray :=
  pushAll bytes [n / 256 % 256, n % 256]

/-- Append a number of 32 bits, the high byte first. -/
def pushWord (bytes : ByteArray) (n : Nat) : ByteArray :=
  pushShort (pushShort bytes (n / 65536)) (n % 65536)

end CanvasPress.Raster
