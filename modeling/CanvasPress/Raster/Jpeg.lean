/-
# JPEG

A bitmap in the baseline format JPEG.  Colours become a brightness and two
differences; blocks of eight by eight become weights of cosine waves; weights
are divided by steps that grow as the quality falls; and what remains is written
in prefix codes.  All arithmetic is on integers.
-/

import CanvasPress.Decimal.Power
import CanvasPress.Raster.Bitmap

namespace CanvasPress.Raster.Jpeg

/-- The pixels of a block's side. -/
def side : Nat := 8

/-! ## Steps -/

/-- The order in which the weights of a block are written. -/
def zigzag : Array Nat :=
  #[0, 1, 8, 16, 9, 2, 3, 10, 17, 24, 32, 25, 18, 11, 4, 5, 12, 19, 26, 33, 40, 48, 41, 34, 27, 20,
    13, 6, 7, 14, 21, 28, 35, 42, 49, 56, 57, 50, 43, 36, 29, 22, 15, 23, 30, 37, 44, 51, 58, 59,
    52, 45, 38, 31, 39, 46, 53, 60, 61, 54, 47, 55, 62, 63]

/-- The steps of brightness at quality 50, row by row. -/
def brightnessSteps : Array Nat :=
  #[16, 11, 10, 16, 24, 40, 51, 61, 12, 12, 14, 19, 26, 58, 60, 55, 14, 13, 16, 24, 40, 57, 69, 56,
    14, 17, 22, 29, 51, 87, 80, 62, 18, 22, 37, 56, 68, 109, 103, 77, 24, 35, 55, 64, 81, 104, 113,
    92, 49, 64, 78, 87, 103, 121, 120, 101, 72, 92, 95, 98, 112, 100, 103, 99]

/-- The steps of the differences at quality 50, row by row. -/
def differenceSteps : Array Nat :=
  #[17, 18, 24, 47, 99, 99, 99, 99, 18, 21, 26, 66, 99, 99, 99, 99, 24, 26, 56, 99, 99, 99, 99, 99,
    47, 66, 99, 99, 99, 99, 99, 99, 99, 99, 99, 99, 99, 99, 99, 99, 99, 99, 99, 99, 99, 99, 99, 99,
    99, 99, 99, 99, 99, 99, 99, 99, 99, 99, 99, 99, 99, 99, 99, 99]

/-- The steps at a quality, which counts as one from 1 to 100. -/
def stepsAt (quality : Nat) (steps : Array Nat) : Array Nat :=
  let quality := max 1 (min 100 quality)
  let percent := if quality < 50 then 5000 / quality else 200 - 2 * quality
  steps.map fun s => max 1 (min 255 ((s * percent + 50) / 100))

/-! ## Waves -/

/-- `4096 * cos (k * π / 16)`, rounded. -/
def quarterWave : Array Int :=
  #[4096, 4017, 3784, 3406, 2896, 2276, 1567, 799, 0]

/-- `4096 * cos (k * π / 16)` for `k` up to a whole turn. -/
def wave (k : Nat) : Int :=
  let k := k % 32
  if k ≤ 8 then quarterWave.getD k 0
  else if k ≤ 16 then -quarterWave.getD (16 - k) 0
  else if k ≤ 24 then -quarterWave.getD (k - 16) 0
  else quarterWave.getD (32 - k) 0

/-- The share of a sample in a wave, times 8192. -/
def share (frequency position : Nat) : Int :=
  if frequency = 0 then wave 4 else wave ((2 * position + 1) * frequency)

/-- The weights of the waves in eight samples, times 8192. -/
def weights (samples : Nat → Int) (frequency : Nat) : Int :=
  (List.range side).foldl (fun sum i => sum + samples i * share frequency i) 0

/-- The nearest integer to a quotient, a half going away from zero. -/
def divided (n : Int) (d : Int) : Int :=
  if n < 0 then -((-n + d / 2) / d) else (n + d / 2) / d

/-- The weights of a block, row by row, divided by their steps. -/
def blockWeights (steps : Array Nat) (samples : Array Int) : Array Int :=
  let across : Array Int := (Array.range 64).map fun i =>
    weights (fun k => samples.getD (i / side * side + k) 0) (i % side)
  (Array.range 64).map fun i =>
    let weight := weights (fun k => across.getD (k * side + i % side) 0) (i / side)
    divided weight (steps.getD i 1 * 67108864)

/-! ## Prefix codes -/

/-- A table of codes: how many there are of each length from one on, and what
they stand for in order. -/
structure Table where
  counts : List Nat
  symbols : List Nat

/-- Codes by what they stand for: each with its length. -/
def Table.codes (t : Table) : Array (Nat × Nat) :=
  let lengths := (t.counts.zipIdx 1).flatMap fun (count, length) => List.replicate count length
  let number (state : Nat × Nat × List (Nat × Nat)) (length : Nat) :=
    let (code, before, out) := state
    let code := code * twoTo (length - before)
    (code + 1, length, (code, length) :: out)
  let numbered := (lengths.foldl number (0, lengths.headD 1, [])).2.2.reverse
  (t.symbols.zip numbered).foldl (fun codes entry => codes.setIfInBounds entry.1 entry.2)
    (Array.replicate 256 (0, 0))

/-- The codes for the first weights of brightness. -/
def brightnessFirst : Table where
  counts := [0, 1, 5, 1, 1, 1, 1, 1, 1, 0, 0, 0, 0, 0, 0, 0]
  symbols := [0, 1, 2, 3, 4, 5, 6, 7, 8, 9, 10, 11]

/-- The codes for the first weights of the differences. -/
def differenceFirst : Table where
  counts := [0, 3, 1, 1, 1, 1, 1, 1, 1, 1, 1, 0, 0, 0, 0, 0]
  symbols := [0, 1, 2, 3, 4, 5, 6, 7, 8, 9, 10, 11]

/-- The codes for the other weights of brightness. -/
def brightnessOther : Table where
  counts := [0, 2, 1, 3, 3, 2, 4, 3, 5, 5, 4, 4, 0, 0, 1, 0x7D]
  symbols :=
    [0x01, 0x02, 0x03, 0x00, 0x04, 0x11, 0x05, 0x12, 0x21, 0x31, 0x41, 0x06, 0x13, 0x51, 0x61,
      0x07, 0x22, 0x71, 0x14, 0x32, 0x81, 0x91, 0xA1, 0x08, 0x23, 0x42, 0xB1, 0xC1, 0x15, 0x52,
      0xD1, 0xF0, 0x24, 0x33, 0x62, 0x72, 0x82, 0x09, 0x0A, 0x16, 0x17, 0x18, 0x19, 0x1A, 0x25,
      0x26, 0x27, 0x28, 0x29, 0x2A, 0x34, 0x35, 0x36, 0x37, 0x38, 0x39, 0x3A, 0x43, 0x44, 0x45,
      0x46, 0x47, 0x48, 0x49, 0x4A, 0x53, 0x54, 0x55, 0x56, 0x57, 0x58, 0x59, 0x5A, 0x63, 0x64,
      0x65, 0x66, 0x67, 0x68, 0x69, 0x6A, 0x73, 0x74, 0x75, 0x76, 0x77, 0x78, 0x79, 0x7A, 0x83,
      0x84, 0x85, 0x86, 0x87, 0x88, 0x89, 0x8A, 0x92, 0x93, 0x94, 0x95, 0x96, 0x97, 0x98, 0x99,
      0x9A, 0xA2, 0xA3, 0xA4, 0xA5, 0xA6, 0xA7, 0xA8, 0xA9, 0xAA, 0xB2, 0xB3, 0xB4, 0xB5, 0xB6,
      0xB7, 0xB8, 0xB9, 0xBA, 0xC2, 0xC3, 0xC4, 0xC5, 0xC6, 0xC7, 0xC8, 0xC9, 0xCA, 0xD2, 0xD3,
      0xD4, 0xD5, 0xD6, 0xD7, 0xD8, 0xD9, 0xDA, 0xE1, 0xE2, 0xE3, 0xE4, 0xE5, 0xE6, 0xE7, 0xE8,
      0xE9, 0xEA, 0xF1, 0xF2, 0xF3, 0xF4, 0xF5, 0xF6, 0xF7, 0xF8, 0xF9, 0xFA]

/-- The codes for the other weights of the differences. -/
def differenceOther : Table where
  counts := [0, 2, 1, 2, 4, 4, 3, 4, 7, 5, 4, 4, 0, 1, 2, 0x77]
  symbols :=
    [0x00, 0x01, 0x02, 0x03, 0x11, 0x04, 0x05, 0x21, 0x31, 0x06, 0x12, 0x41, 0x51, 0x07, 0x61,
      0x71, 0x13, 0x22, 0x32, 0x81, 0x08, 0x14, 0x42, 0x91, 0xA1, 0xB1, 0xC1, 0x09, 0x23, 0x33,
      0x52, 0xF0, 0x15, 0x62, 0x72, 0xD1, 0x0A, 0x16, 0x24, 0x34, 0xE1, 0x25, 0xF1, 0x17, 0x18,
      0x19, 0x1A, 0x26, 0x27, 0x28, 0x29, 0x2A, 0x35, 0x36, 0x37, 0x38, 0x39, 0x3A, 0x43, 0x44,
      0x45, 0x46, 0x47, 0x48, 0x49, 0x4A, 0x53, 0x54, 0x55, 0x56, 0x57, 0x58, 0x59, 0x5A, 0x63,
      0x64, 0x65, 0x66, 0x67, 0x68, 0x69, 0x6A, 0x73, 0x74, 0x75, 0x76, 0x77, 0x78, 0x79, 0x7A,
      0x82, 0x83, 0x84, 0x85, 0x86, 0x87, 0x88, 0x89, 0x8A, 0x92, 0x93, 0x94, 0x95, 0x96, 0x97,
      0x98, 0x99, 0x9A, 0xA2, 0xA3, 0xA4, 0xA5, 0xA6, 0xA7, 0xA8, 0xA9, 0xAA, 0xB2, 0xB3, 0xB4,
      0xB5, 0xB6, 0xB7, 0xB8, 0xB9, 0xBA, 0xC2, 0xC3, 0xC4, 0xC5, 0xC6, 0xC7, 0xC8, 0xC9, 0xCA,
      0xD2, 0xD3, 0xD4, 0xD5, 0xD6, 0xD7, 0xD8, 0xD9, 0xDA, 0xE2, 0xE3, 0xE4, 0xE5, 0xE6, 0xE7,
      0xE8, 0xE9, 0xEA, 0xF2, 0xF3, 0xF4, 0xF5, 0xF6, 0xF7, 0xF8, 0xF9, 0xFA]

/-! ## Bits -/

/-- Bytes that are written, and bits behind them that fill no byte yet. -/
structure BitWriter where
  bytes : ByteArray
  pending : Nat
  count : Nat

namespace BitWriter

/-- Write whole bytes while there are any; a byte of ones is followed by a zero. -/
def flush : Nat → BitWriter → BitWriter
  | 0, w => w
  | fuel + 1, w =>
    if w.count < 8 then w
    else
      let rest := w.count - 8
      let byte := w.pending / twoTo rest
      let bytes := w.bytes.push byte.toUInt8
      let bytes := if byte = 255 then bytes.push 0 else bytes
      flush fuel ⟨bytes, w.pending % twoTo rest, rest⟩

/-- Write the bits of a number. -/
def put (w : BitWriter) (value length : Nat) : BitWriter :=
  flush (length / 8 + 1) ⟨w.bytes, w.pending * twoTo length + value, w.count + length⟩

/-- Fill the last byte with ones. -/
def finish (w : BitWriter) : ByteArray :=
  (w.put (twoTo (7 - (w.count + 7) % 8) - 1) (7 - (w.count + 7) % 8)).bytes

end BitWriter

/-- The number of bits of a weight without its sign. -/
def sizeOf (n : Int) : Nat :=
  if n = 0 then 0 else n.natAbs.log2 + 1

/-- The bits of a weight; a negative one is counted from the smallest of its size. -/
def bitsOf (n : Int) : Nat :=
  if n < 0 then (n + twoTo (sizeOf n) - 1).toNat else n.toNat

/-- Write a symbol and the bits of a weight. -/
def putWeight (codes : Array (Nat × Nat)) (zeros : Nat) (n : Int) (w : BitWriter) : BitWriter :=
  let (code, length) := codes.getD (zeros * 16 + sizeOf n) (0, 0)
  (w.put code length).put (bitsOf n) (sizeOf n)

/-- Write the weights behind the first one, and how many zeros stand before each. -/
def putOthers (codes : Array (Nat × Nat)) : Nat → List Int → BitWriter → BitWriter
  | 0, [], w => w
  | _ + 1, [], w => let (code, length) := codes.getD 0 (0, 0); w.put code length
  | zeros, n :: rest, w =>
    if n = 0 then putOthers codes (zeros + 1) rest w
    else
      let (code, length) := codes.getD 0xF0 (0, 0)
      let w := (List.range (zeros / 16)).foldl (fun w _ => w.put code length) w
      putOthers codes 0 rest (putWeight codes (zeros % 16) n w)

/-- Write a block behind one whose first weight is given. -/
def putBlock (first other : Array (Nat × Nat)) (before : Int) (weights : Array Int)
    (w : BitWriter) : BitWriter :=
  let ordered := zigzag.toList.map fun i => weights.getD i 0
  putOthers other 0 (ordered.drop 1) (putWeight first 0 (ordered.headD 0 - before) w)

/-! ## Colours -/

/-- The brightness of a colour, less 128. -/
def brightness (c : Colour) : Int :=
  ((19595 * c.red + 38470 * c.green + 7471 * c.blue + 32768 : Nat) : Int) / 65536 - 128

/-- How blue a colour is. -/
def blueness (c : Colour) : Int :=
  (-11056 * (c.red : Int) - 21712 * c.green + 32768 * c.blue + 32767) / 65536

/-- How red a colour is. -/
def redness (c : Colour) : Int :=
  (32768 * (c.red : Int) - 27440 * c.green - 5328 * c.blue + 32767) / 65536

/-- The samples of a block. -/
def samplesOf (b : Bitmap) (part : Colour → Int) (column row : Nat) : Array Int :=
  (Array.range 64).map fun i => part (b.colourAt (column * side + i % side) (row * side + i / side))

/-! ## Files -/

/-- A segment of a file: its mark, its length and its content. -/
def pushSegment (file : ByteArray) (mark : Nat) (content : ByteArray) : ByteArray :=
  pushShort (pushAll file [0xFF, mark]) (content.size + 2) ++ content

/-- The content of the segment with steps. -/
def stepContent (id : Nat) (steps : Array Nat) : ByteArray :=
  pushAll .empty (id :: zigzag.toList.map fun i => steps.getD i 1)

/-- The content of the segment with a table of codes. -/
def tableContent (id : Nat) (t : Table) : ByteArray :=
  pushAll .empty (id :: t.counts ++ t.symbols)

/-- The content of the segment with the size of the picture. -/
def frameContent (b : Bitmap) : ByteArray :=
  pushAll (pushShort (pushShort (pushAll .empty [8]) b.height) b.width)
    [3, 1, 0x11, 0, 2, 0x11, 1, 3, 0x11, 1]

/-- The first weights of the blocks before, and what has been written. -/
structure Scan where
  brightness : Int
  blueness : Int
  redness : Int
  writer : BitWriter

/-- The blocks of a bitmap in the order in which they are written. -/
def blockPlaces (b : Bitmap) : List (Nat × Nat) :=
  (List.range ((b.height + side - 1) / side)).flatMap fun row =>
    (List.range ((b.width + side - 1) / side)).map fun column => (column, row)

/-- The bits of all blocks. -/
def scanBytes (b : Bitmap) (steps steps₂ : Array Nat) : ByteArray :=
  let first := brightnessFirst.codes
  let other := brightnessOther.codes
  let first₂ := differenceFirst.codes
  let other₂ := differenceOther.codes
  let add (s : Scan) (place : Nat × Nat) : Scan :=
    let y := blockWeights steps (samplesOf b brightness place.1 place.2)
    let u := blockWeights steps₂ (samplesOf b blueness place.1 place.2)
    let v := blockWeights steps₂ (samplesOf b redness place.1 place.2)
    let w := putBlock first other s.brightness y s.writer
    let w := putBlock first₂ other₂ s.blueness u w
    let w := putBlock first₂ other₂ s.redness v w
    ⟨y.getD 0 0, u.getD 0 0, v.getD 0 0, w⟩
  ((blockPlaces b).foldl add ⟨0, 0, 0, ⟨.empty, 0, 0⟩⟩).writer.finish

/-- A bitmap as a file. -/
def encode (quality : Nat) (b : Bitmap) : ByteArray :=
  let steps := stepsAt quality brightnessSteps
  let steps₂ := stepsAt quality differenceSteps
  let file := pushAll .empty [0xFF, 0xD8]
  let file := pushSegment file 0xE0
    (pushAll .empty [0x4A, 0x46, 0x49, 0x46, 0, 1, 2, 0, 0, 1, 0, 1, 0, 0])
  let file := pushSegment file 0xC0 (frameContent b)
  let file := pushSegment file 0xC4 (tableContent 0x00 brightnessFirst)
  let file := pushSegment file 0xC4 (tableContent 0x10 brightnessOther)
  let file := pushSegment file 0xC4 (tableContent 0x01 differenceFirst)
  let file := pushSegment file 0xC4 (tableContent 0x11 differenceOther)
  let file := pushSegment file 0xDB (stepContent 0 steps)
  let file := pushSegment file 0xDB (stepContent 1 steps₂)
  let file := pushSegment file 0xDA (pushAll .empty [3, 1, 0x00, 2, 0x11, 3, 0x11, 0, 0x3F, 0])
  pushAll (file ++ scanBytes b steps steps₂) [0xFF, 0xD9]

end CanvasPress.Raster.Jpeg
