/-
# Pictures and their files

Painting ends in one of five ways, and which one it is does not depend on the painter alone:
whoever paints a picture, it is the same picture, and only a fault tells painters apart.

The size of a picture stands in its file as well, in front of everything that an encoder has
to compute.  A reader of either format finds it without a look at the pixels.
-/

import CanvasPress.Raster.Picture
import Mathlib.Tactic.Common

namespace CanvasPress

namespace Picture

variable {painter : Painter} {order : Order}

/-! ## Painting -/

/-- How work on an order may end. -/
inductive Paints (painter : Painter) (order : Order) : Ending Picture → Prop where
  | unfit (hsize : (isSide order.width && isSide order.height) = false) :
      Paints painter order (.failed (sizeFault order.width order.height))
  | died {report : Report} (hsize : (isSide order.width && isSide order.height) = true)
      (hdies : painter.crash? order = some report) : Paints painter order (.panicked report)
  | unread (hsize : (isSide order.width && isSide order.height) = true)
      (hlives : painter.crash? order = none) (hscene : Drawing.Scene.ofText? order.svg = none) :
      Paints painter order (.failed (drawingFault (painter.objection order.svg)))
  | hindered {scene : Drawing.Scene} {hitch : Hitch}
      (hsize : (isSide order.width && isSide order.height) = true)
      (hscene : Drawing.Scene.ofText? order.svg = some scene)
      (hhitch : painter.hitch? order = some hitch) :
      Paints painter order (.failed (hitch.fault order.encoding))
  | done {scene : Drawing.Scene} (hsize : (isSide order.width && isSide order.height) = true)
      (hscene : Drawing.Scene.ofText? order.svg = some scene) :
      Paints painter order (.returned (order.picture scene))

theorem paints_paint (painter : Painter) (order : Order) :
    Paints painter order (painter.paint order) := by
  unfold Painter.paint
  cases hsize : isSide order.width && isSide order.height with
  | false => exact .unfit hsize
  | true =>
      cases hcrash : painter.crash? order with
      | some report => exact .died hsize hcrash
      | none =>
          cases hscene : Drawing.Scene.ofText? order.svg with
          | none => exact .unread hsize hcrash hscene
          | some scene =>
              cases hhitch : painter.hitch? order with
              | some hitch => exact .hindered hsize hscene hhitch
              | none => exact .done hsize hscene

/-- Whatever gets in the way of a picture, its conversion has failed. -/
theorem fault_of_painted {fault : Fault} (h : painted (painter.paint order) = .error fault) :
    ∃ text, fault = .conversion .raster text := by
  have hpaints := paints_paint painter order
  generalize painter.paint order = ending at h hpaints
  cases hpaints with
  | @hindered _ hitch =>
      cases h
      cases hitch <;> exact ⟨_, rfl⟩
  | done => cases h
  | _ =>
      cases h
      exact ⟨_, rfl⟩

/-- A picture is the same whoever has painted it. -/
theorem painted_sound_of_painted {image : Picture}
    (h : painted (painter.paint order) = .ok image) :
    painted (Painter.sound.paint order) = .ok image := by
  have hpaints := paints_paint painter order
  generalize painter.paint order = ending at h hpaints
  cases hpaints with
  | done hsize hscene =>
      cases h
      simp only [Painter.paint, hsize, if_true, Painter.sound, hscene]
      rfl
  | _ => cases h

/-- Nothing gets in the way of a painter. -/
structure Painter.IsSound (painter : Painter) : Prop where
  lives : ∀ order, painter.crash? order = none
  unhindered : ∀ order, painter.hitch? order = none

theorem Painter.isSound_sound : Painter.sound.IsSound where
  lives _ := rfl
  unhindered _ := rfl

end Picture

/-! ## Files as numbers -/

namespace Raster

/-- The bytes of a file as numbers. -/
def numbersOf (file : ByteArray) : List Nat :=
  file.data.toList.map UInt8.toNat

/-- The number that bytes spell, the high byte first. -/
def spelled (bytes : List Nat) : Nat :=
  bytes.foldl (fun n byte => n * 256 + byte) 0

/-- The two bytes of a number, the high byte first. -/
def shortOf (n : Nat) : List Nat :=
  [n / 256 % 256, n % 256]

/-- The four bytes of a number, the high byte first. -/
def wordOf (n : Nat) : List Nat :=
  shortOf (n / 65536) ++ shortOf (n % 65536)

theorem spelled_shortOf {n : Nat} (h : n < 65536) : spelled (shortOf n) = n := by
  simp only [spelled, shortOf, List.foldl_cons, List.foldl_nil]
  omega

theorem spelled_wordOf {n : Nat} (h : n < 65536 * 65536) : spelled (wordOf n) = n := by
  simp only [spelled, wordOf, shortOf, List.cons_append, List.nil_append, List.foldl_cons,
    List.foldl_nil]
  omega

theorem numbersOf_append (file file' : ByteArray) :
    numbersOf (file ++ file') = numbersOf file ++ numbersOf file' := by
  rw [numbersOf, ByteArray.data_append, Array.toList_append, List.map_append]
  rfl

theorem length_numbersOf (file : ByteArray) : (numbersOf file).length = file.size := by
  rw [numbersOf, List.length_map]
  rfl

theorem numbersOf_pushAll (file : ByteArray) (numbers : List Nat) :
    numbersOf (pushAll file numbers) = numbersOf file ++ numbers.map (· % 256) := by
  induction numbers generalizing file with
  | nil => simp [pushAll]
  | cons n rest ih =>
      have hfirst : numbersOf (file.push n.toUInt8) = numbersOf file ++ [n % 256] := by
        simp [numbersOf]
      have hrest := ih (file.push n.toUInt8)
      rw [hfirst, List.append_assoc, List.singleton_append] at hrest
      exact hrest

theorem numbersOf_pushShort (file : ByteArray) (n : Nat) :
    numbersOf (pushShort file n) = numbersOf file ++ shortOf n := by
  rw [pushShort, numbersOf_pushAll]
  simp [shortOf]

theorem numbersOf_pushWord (file : ByteArray) (n : Nat) :
    numbersOf (pushWord file n) = numbersOf file ++ wordOf n := by
  rw [pushWord, numbersOf_pushShort, numbersOf_pushShort, wordOf, List.append_assoc]

/-! ## The size that a file states -/

/-- What a PNG file begins with: the signature, and the length and name of its first chunk. -/
def pngOpening : List Nat :=
  [0x89, 0x50, 0x4E, 0x47, 0x0D, 0x0A, 0x1A, 0x0A, 0, 0, 0, 13, 0x49, 0x48, 0x44, 0x52]

/-- What a JPEG file begins with. -/
def jpegOpening : List Nat :=
  [0xFF, 0xD8]

/-- The size that the first frame among the segments of a JPEG file states.  Other segments are
passed over by their lengths. -/
def frameSize? : Nat → List Nat → Option (Nat × Nat)
  | fuel + 1, 0xFF :: mark :: high :: low :: rest =>
    if mark = 0xC0 then
      some (spelled ((rest.drop 3).take 2), spelled ((rest.drop 1).take 2))
    else frameSize? fuel (rest.drop (spelled [high, low] - 2))
  | _, _ => none

/-- The width and the height that a file states. -/
def statedSize? (file : List Nat) : Option (Nat × Nat) :=
  if file.take 16 = pngOpening then
    some (spelled ((file.drop 16).take 4), spelled ((file.drop 20).take 4))
  else if file.take 2 = jpegOpening then frameSize? file.length (file.drop 2)
  else none

theorem statedSize?_png {width height : Nat} (hwidth : width < 65536 * 65536)
    (hheight : height < 65536 * 65536) (rest : List Nat) :
    statedSize? (pngOpening ++ (wordOf width ++ (wordOf height ++ rest))) =
      some (width, height) := by
  have hwords : statedSize? (pngOpening ++ (wordOf width ++ (wordOf height ++ rest))) =
      some (spelled (wordOf width), spelled (wordOf height)) := by
    simp only [statedSize?, pngOpening, wordOf, shortOf, List.cons_append, List.nil_append]
    rfl
  rw [hwords, spelled_wordOf hwidth, spelled_wordOf hheight]

/-- A segment that is no frame is passed over. -/
theorem frameSize?_segment {mark : Nat} (hmark : mark ≠ 0xC0) {content : List Nat}
    (hlength : content.length + 2 < 65536) (fuel : Nat) (rest : List Nat) :
    frameSize? (fuel + 1)
        (0xFF :: mark :: (shortOf (content.length + 2) ++ (content ++ rest))) =
      frameSize? fuel rest := by
  have hskipped : (content ++ rest).drop (spelled (shortOf (content.length + 2)) - 2) = rest := by
    rw [spelled_shortOf hlength, Nat.add_sub_cancel, List.drop_left]
  simp only [shortOf, List.cons_append, List.nil_append] at hskipped ⊢
  rw [frameSize?, if_neg hmark, hskipped]

/-- A frame states its height and its width, behind its length and the depth of colours. -/
theorem frameSize?_frame {width height : Nat} (hwidth : width < 65536) (hheight : height < 65536)
    (length depth fuel : Nat) (rest : List Nat) :
    frameSize? (fuel + 1)
        (0xFF :: 0xC0 :: (shortOf length ++
          depth :: (shortOf height ++ (shortOf width ++ rest)))) =
      some (width, height) := by
  have hshorts : frameSize? (fuel + 1)
      (0xFF :: 0xC0 :: (shortOf length ++
        depth :: (shortOf height ++ (shortOf width ++ rest)))) =
      some (spelled (shortOf width), spelled (shortOf height)) := rfl
  rw [hshorts, spelled_shortOf hwidth, spelled_shortOf hheight]

theorem statedSize?_jpeg (segments : List Nat) :
    statedSize? (jpegOpening ++ segments) = frameSize? (segments.length + 2) segments := by
  have hother : (jpegOpening ++ segments).take 16 ≠ pngOpening := by
    intro hsame
    have hheads := congrArg List.head? hsame
    cases hheads
  have hopening : (jpegOpening ++ segments).take 2 = jpegOpening := rfl
  rw [statedSize?, if_neg hother, if_pos hopening]
  rfl

/-! ## What encoders write -/

theorem begins_pushAll (file : ByteArray) (numbers : List Nat) :
    numbersOf file <+: numbersOf (pushAll file numbers) :=
  ⟨_, (numbersOf_pushAll file numbers).symm⟩

theorem begins_append (file file' : ByteArray) :
    numbersOf file <+: numbersOf (file ++ file') :=
  ⟨_, (numbersOf_append file file').symm⟩

namespace Png

theorem numbersOf_pushChunk (file : ByteArray) (name : String) (data : ByteArray) :
    ∃ check, numbersOf (pushChunk file name data) =
      numbersOf file ++
        (wordOf data.size ++ (numbersOf name.toUTF8 ++ (numbersOf data ++ check))) := by
  refine ⟨wordOf (redundancyCheck (name.toUTF8 ++ data)).toNat, ?_⟩
  simp only [pushChunk, numbersOf_pushWord, numbersOf_append, List.append_assoc]

theorem begins_pushChunk (file : ByteArray) (name : String) (data : ByteArray) :
    numbersOf file <+: numbersOf (pushChunk file name data) := by
  obtain ⟨check, hchunk⟩ := numbersOf_pushChunk file name data
  exact ⟨_, hchunk.symm⟩

theorem numbersOf_header (b : Bitmap) :
    numbersOf (header b) = wordOf b.width ++ (wordOf b.height ++ [8, 2, 0, 0, 0]) := by
  simp only [header, numbersOf_pushAll, numbersOf_pushWord, List.append_assoc]
  rfl

theorem statedSize?_encode {b : Bitmap} (hwidth : b.width < 65536 * 65536)
    (hheight : b.height < 65536 * 65536) :
    statedSize? (numbersOf (encode b)) = some (b.width, b.height) := by
  obtain ⟨check, hfirst⟩ := numbersOf_pushChunk signature "IHDR" (header b)
  obtain ⟨rest, hrest⟩ : numbersOf (pushChunk signature "IHDR" (header b)) <+:
      numbersOf (encode b) := (begins_pushChunk _ _ _).trans (begins_pushChunk _ _ _)
  have hsize : (header b).size = 13 := by
    rw [← length_numbersOf, numbersOf_header]
    rfl
  have hopening : numbersOf signature ++ (wordOf 13 ++ numbersOf "IHDR".toUTF8) = pngOpening := by
    decide
  rw [← hrest, hfirst, hsize, numbersOf_header]
  have hfile := statedSize?_png hwidth hheight ([8, 2, 0, 0, 0] ++ (check ++ rest))
  rw [← hopening] at hfile
  simpa only [List.append_assoc] using hfile

end Png

namespace Jpeg

theorem numbersOf_pushSegment (file : ByteArray) (mark : Nat) (content : ByteArray) :
    numbersOf (pushSegment file mark content) =
      numbersOf file ++ ([0xFF, mark % 256] ++ (shortOf (content.size + 2) ++
        numbersOf content)) := by
  simp only [pushSegment, numbersOf_append, numbersOf_pushShort, numbersOf_pushAll,
    List.append_assoc]
  rfl

theorem begins_pushSegment (file : ByteArray) (mark : Nat) (content : ByteArray) :
    numbersOf file <+: numbersOf (pushSegment file mark content) :=
  ⟨_, (numbersOf_pushSegment file mark content).symm⟩

theorem numbersOf_frameContent (b : Bitmap) : numbersOf (frameContent b) =
    8 :: (shortOf b.height ++ (shortOf b.width ++ [3, 1, 0x11, 0, 2, 0x11, 1, 3, 0x11, 1])) := by
  simp only [frameContent, numbersOf_pushAll, numbersOf_pushShort, List.append_assoc]
  rfl

theorem statedSize?_encode (quality : Nat) {b : Bitmap} (hwidth : b.width < 65536)
    (hheight : b.height < 65536) :
    statedSize? (numbersOf (encode quality b)) = some (b.width, b.height) := by
  let opened := pushAll .empty [0xFF, 0xD8]
  let first := pushAll .empty [0x4A, 0x46, 0x49, 0x46, 0, 1, 2, 0, 0, 1, 0, 1, 0, 0]
  let framed := pushSegment (pushSegment opened 0xE0 first) 0xC0 (frameContent b)
  obtain ⟨rest, hrest⟩ : numbersOf framed <+: numbersOf (encode quality b) :=
    (begins_pushSegment _ _ _).trans <| (begins_pushSegment _ _ _).trans <|
      (begins_pushSegment _ _ _).trans <| (begins_pushSegment _ _ _).trans <|
      (begins_pushSegment _ _ _).trans <| (begins_pushSegment _ _ _).trans <|
      (begins_pushSegment _ _ _).trans <| (begins_append _ _).trans (begins_pushAll _ _)
  have hlength : (numbersOf first).length = first.size := length_numbersOf first
  have hfile : numbersOf (encode quality b) = jpegOpening ++
      0xFF :: 0xE0 :: (shortOf ((numbersOf first).length + 2) ++ (numbersOf first ++
        0xFF :: 0xC0 :: (shortOf ((frameContent b).size + 2) ++
          8 :: (shortOf b.height ++ (shortOf b.width ++
            ([3, 1, 0x11, 0, 2, 0x11, 1, 3, 0x11, 1] ++ rest)))))) := by
    simp only [← hrest, framed, numbersOf_pushSegment, numbersOf_frameContent, hlength,
      List.append_assoc, List.cons_append, List.nil_append]
    rfl
  rw [hfile, statedSize?_jpeg, frameSize?_segment (by decide) (by rw [hlength]; decide)]
  exact frameSize?_frame hwidth hheight _ _ _ _

end Jpeg

end Raster

namespace Picture

/-! ## The size of a picture -/

/-- A picture has as many pixels as a width and a height say, and its file says so. -/
structure HasSize (image : Picture) (width height : Nat) : Prop where
  wide : image.bitmap.width = width
  high : image.bitmap.height = height
  rows : image.bitmap.rows.size = height
  row : ∀ row ∈ image.bitmap.rows, row.size = width
  stated : Raster.statedSize? (Raster.numbersOf image.encoded) = some (width, height)

theorem lt_of_isSide {n : Nat} (h : isSide n = true) : n < 65536 := by
  simp only [isSide, Bool.and_eq_true, decide_eq_true_eq] at h
  exact Nat.lt_of_le_of_lt h.2 (by decide)

/-- Pictures of possible sizes have them. -/
theorem hasSize {image : Picture} (hwidth : isSide image.width = true)
    (hheight : isSide image.height = true) : image.HasSize image.width image.height where
  wide := rfl
  high := rfl
  rows := by simp [bitmap]
  row row hrow := by
    obtain ⟨y, -, rfl⟩ := Array.mem_map.1 hrow
    simp [Picture.row]
  stated := by
    have hwide : image.bitmap.width < 65536 := lt_of_isSide hwidth
    have hhigh : image.bitmap.height < 65536 := lt_of_isSide hheight
    unfold encoded
    cases image.encoding with
    | png => exact Raster.Png.statedSize?_encode (by omega) (by omega)
    | jpeg => exact Raster.Jpeg.statedSize?_encode _ hwide hhigh

/-- Whatever is painted has the size that was ordered. -/
theorem hasSize_of_painted {painter : Painter} {order : Order} {image : Picture}
    (h : painted (painter.paint order) = .ok image) :
    image.HasSize order.width order.height := by
  have hpaints := paints_paint painter order
  generalize painter.paint order = ending at h hpaints
  cases hpaints with
  | done hsize =>
      cases h
      obtain ⟨hwidth, hheight⟩ := Bool.and_eq_true_iff.1 hsize
      exact hasSize hwidth hheight
  | _ => cases h

end Picture

end CanvasPress
