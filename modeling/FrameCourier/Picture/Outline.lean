import FrameCourier.Detector.Basic
import FrameCourier.Picture.Codec

/-!
# Outlines

An annotated image shows an outline of two pixels around each detection, in the color of
the detection or else in one that its label picks from a palette.

`Corners` are the whole pixels of a box, cut to the canvas; `Corners.outline` lists the
pixels of its outline in the order in which they are set.
-/

namespace FrameCourier.Picture

open Number

/-- The colors that labels pick from. -/
def palette : List Color :=
  [⟨0, 255, 0⟩, ⟨255, 0, 0⟩, ⟨0, 128, 255⟩, ⟨255, 200, 0⟩, ⟨255, 0, 255⟩, ⟨0, 255, 255⟩]

/-- A hash of the bytes of a label, in 64 bits. -/
def labelHash (label : String) : UInt64 :=
  (Bytes.ofText label).foldl (fun hash b => hash * 31 + b.toUInt64) 0

/-- The color that a label picks. -/
def paletteColor (label : String) : Color :=
  (palette[(labelHash label).toNat % palette.length]?).getD default

/-- The color that a detection is drawn with. -/
def drawingColor (detection : Detection) : Color :=
  detection.color.getD (paletteColor detection.label)

/-- The whole pixel nearest to a coordinate, cut to an extent. -/
def nearestPixel (coordinate : Single) (extent : Nat) : Nat :=
  let greatest : Single := .ofInt _ (extent - 1 : Nat)
  ((coordinate.round.clamp (.zero _ false) greatest).toIntWithin 0 greatestWord32).toNat

/-- The first and the last column and row of a box. -/
structure Corners where
  left : Nat
  top : Nat
  right : Nat
  bottom : Nat
  deriving DecidableEq, Repr

/-- The corners of a box on a canvas of the given extents. -/
def Corners.ofBox (width height : Nat) (box : Wire.SingleBox) : Corners :=
  ⟨nearestPixel box.x width, nearestPixel box.y height,
    nearestPixel (box.x + box.width) width, nearestPixel (box.y + box.height) height⟩

/-- How many pixels thick an outline is. -/
def thickness : Nat := 2

/-- The numbers from `first` to `last`, both included. -/
def span (first last : Nat) : List Nat :=
  (List.range (last + 1 - first)).map (first + ·)

/-- The pixels of one ring of the outline, `inset` pixels inside the box. -/
def Corners.ring (corners : Corners) (inset : Nat) : List (Nat × Nat) :=
  (span corners.left corners.right).flatMap (fun x =>
    [(x, min (corners.top + inset) corners.bottom),
      (x, max (corners.bottom - inset) corners.top)]) ++
  (span corners.top corners.bottom).flatMap fun y =>
    [(min (corners.left + inset) corners.right, y),
      (max (corners.right - inset) corners.left, y)]

/-- The pixels of the outline of a box. -/
def Corners.outline (corners : Corners) : List (Nat × Nat) :=
  (List.range thickness).flatMap corners.ring

/-- The pixels that drawing a box sets on a canvas of the given extents. -/
def boxPixels (width height : Nat) (box : Wire.SingleBox) : List (Nat × Nat) :=
  if width = 0 ∨ height = 0 then [] else (Corners.ofBox width height box).outline

/-- Draws the outline of a box; none if a pixel of it lies outside of the canvas. -/
def drawBox? (canvas : Canvas) (box : Wire.SingleBox) (color : Color) : Option Canvas :=
  canvas.setAll? color (boxPixels canvas.width canvas.height box)

/-- Draws the boxes of detections one after the other. -/
def drawAll? (canvas : Canvas) : List Detection → Option Canvas
  | [] => some canvas
  | detection :: rest =>
    match drawBox? canvas detection.box (drawingColor detection) with
    | none => none
    | some canvas => drawAll? canvas rest

/-- Why an image cannot be annotated. -/
inductive AnnotationFault where
  | undecodable (reason : String)
  | unencodable (reason : String)
  deriving DecidableEq, Repr

def AnnotationFault.message : AnnotationFault → String
  | undecodable reason => "Failed to decode image: " ++ reason
  | unencodable reason => "Failed to encode annotated image: " ++ reason

/-- The compressed image with every detection drawn on it.  None if the drawing leaves the
canvas: that is no fault to go on from, whoever draws ends there. -/
def annotate? (codec : ImageCodec) (image : Bytes) (detections : List Detection)
    (quality : UInt8) : Option (Except AnnotationFault Bytes) :=
  match codec.decode image with
  | .error reason => some (.error (.undecodable reason))
  | .ok canvas =>
    match drawAll? canvas detections with
    | none => none
    | some canvas =>
      match sizeFault? canvas with
      | some reason => some (.error (.unencodable reason))
      | none => some (.ok (codec.compress quality canvas))

end FrameCourier.Picture
