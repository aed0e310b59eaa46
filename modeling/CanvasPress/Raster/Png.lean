/-
# PNG

A bitmap in the format PNG: colours of three bytes, rows unfiltered, and the
data stored without compression, which every reader understands.
-/

import CanvasPress.Raster.Bitmap

namespace CanvasPress.Raster.Png

/-- The cyclic redundancy check after eight more bits. -/
def shifted : Nat → UInt32 → UInt32
  | 0, c => c
  | n + 1, c => shifted n (if c &&& 1 = 1 then (c >>> 1) ^^^ (0xEDB88320 : UInt32) else c >>> 1)

/-- The cyclic redundancy check of bytes. -/
def redundancyCheck (bytes : ByteArray) : UInt32 :=
  bytes.foldl (fun c b => shifted 8 (c ^^^ b.toUInt32)) 0xFFFFFFFF ^^^ 0xFFFFFFFF

/-- The checksum of compressed data: a running sum, and the sum of the sums. -/
def checksum (bytes : ByteArray) : Nat :=
  let (low, high) := bytes.foldl
    (fun (sums : UInt32 × UInt32) b =>
      let low := (sums.1 + b.toUInt32) % 65521
      (low, (sums.2 + low) % 65521))
    (1, 0)
  high.toNat * 65536 + low.toNat

/-- A chunk: its length, its name, its data and their check. -/
def pushChunk (file : ByteArray) (name : String) (data : ByteArray) : ByteArray :=
  let body := name.toUTF8 ++ data
  pushWord (pushWord file data.size ++ body) (redundancyCheck body).toNat

/-- The greatest number of bytes in a stored block. -/
def blockSize : Nat := 65535

/-- The stored blocks of data from an offset on; the number of blocks that are
still to come is given. -/
def pushBlocks (data : ByteArray) : Nat → Nat → ByteArray → ByteArray
  | 0, _, out => out
  | more + 1, offset, out =>
    let size := min blockSize (data.size - offset)
    let size₂ := 65535 - size
    let head := pushAll out
      [if more = 0 then 1 else 0, size % 256, size / 256, size₂ % 256, size₂ / 256]
    pushBlocks data more (offset + size) (head ++ data.extract offset (offset + size))

/-- Data in the compressed format, stored as it is. -/
def stored (data : ByteArray) : ByteArray :=
  let blocks := max 1 ((data.size + blockSize - 1) / blockSize)
  pushWord (pushBlocks data blocks 0 (pushAll .empty [0x78, 0x01])) (checksum data)

/-- The rows of a bitmap, each behind the mark of an unfiltered row. -/
def rowData (b : Bitmap) : ByteArray :=
  b.rows.foldl (fun bytes row => row.foldl pushColour (bytes.push 0)) .empty

/-- The size of a picture and the form of its colours. -/
def header (b : Bitmap) : ByteArray :=
  pushAll (pushWord (pushWord .empty b.width) b.height) [8, 2, 0, 0, 0]

/-- The bytes that every file begins with. -/
def signature : ByteArray :=
  pushAll .empty [0x89, 0x50, 0x4E, 0x47, 0x0D, 0x0A, 0x1A, 0x0A]

/-- A bitmap as a file. -/
def encode (b : Bitmap) : ByteArray :=
  let file := pushChunk signature "IHDR" (header b)
  let file := pushChunk file "IDAT" (stored (rowData b))
  pushChunk file "IEND" .empty

end CanvasPress.Raster.Png
