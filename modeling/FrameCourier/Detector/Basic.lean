import FrameCourier.Picture.Canvas
import FrameCourier.Wire.Prediction

/-!
# Detectors

A detector answers the bytes of an image with the objects on it, in the pixels of the
image.  The service only calls it; what it is made of is left open.
-/

namespace FrameCourier

/-- One object that a detector found. -/
structure Detection where
  label : String
  confidence : Number.Single
  box : Wire.SingleBox
  /-- The color to draw the box with, where one is known for the label. -/
  color : Option Picture.Color
  deriving DecidableEq, Repr

/-- The detection as it is reported. -/
def Detection.toPrediction (detection : Detection) : Wire.Prediction :=
  .report detection.label detection.confidence detection.box

/-- Why a detector has no answer. -/
inductive DetectorFault where
  | undecodable (reason : String)
  | inferenceFailed (reason : String)
  deriving DecidableEq, Repr

def DetectorFault.message : DetectorFault → String
  | undecodable reason => "Image decoding error: " ++ reason
  | inferenceFailed reason => "Inference failed: " ++ reason

/-- Maps an image to the objects on it. -/
abbrev Detector := Bytes → Except DetectorFault (List Detection)

end FrameCourier
