import FrameCourier.Document.Shape

/-!
# Predictions

A prediction is one detected object as it travels: its label, a score of two decimals and
a box of whole pixels.  Writing and reading it are both here.
-/

namespace FrameCourier.Wire

open Number

/-- A box in whole pixels: its upper left corner and its extent. -/
structure PixelBox where
  x : Int64
  y : Int64
  width : Int64
  height : Int64
  deriving DecidableEq, Repr

/-- A box in 32-bit coordinates. -/
structure SingleBox where
  x : Single
  y : Single
  width : Single
  height : Single
  deriving DecidableEq, Repr

/-- The nearest whole pixel; coordinates beyond 64 bits stop at the last one, and a
not-a-number becomes zero. -/
def pixel (coordinate : Single) : Int64 :=
  .ofInt (coordinate.round.toIntWithin leastInt64 greatestInt64)

def SingleBox.toPixels (box : SingleBox) : PixelBox :=
  ⟨pixel box.x, pixel box.y, pixel box.width, pixel box.height⟩

/-- A confidence as it is reported: cut to the range from 0 to 1 and rounded to hundredths. -/
def hundredths (confidence : Single) : Double :=
  let unit := confidence.clamp (.zero _ false) (.ofInt _ 1)
  (unit.convert .double * .ofInt _ 100).round / .ofInt _ 100

/-- One detected object as it travels on the wire. -/
structure Prediction where
  label : String
  score : Double
  box : PixelBox
  deriving DecidableEq, Repr

namespace Prediction

/-- The prediction that reports a label with a confidence and a box. -/
def report (label : String) (confidence : Single) (box : SingleBox) : Prediction :=
  ⟨label, hundredths confidence, box.toPixels⟩

open Document

def boxDocument (box : PixelBox) : Document :=
  .list ([box.x, box.y, box.width, box.height].map fun side => .number (.integer side.toInt))

/-- The members that are sent, in their order. -/
def members (prediction : Prediction) : Members :=
  [("class", .text prediction.label), ("score", .number (.real prediction.score)),
    ("bbox", boxDocument prediction.box)]

def toDocument (prediction : Prediction) : Document := .object prediction.members

def asBox : Shape PixelBox := fun document =>
  (asFour asInt64 document).map fun (x, y, width, height) => ⟨x, y, width, height⟩

def fields : List Field := [.of "class" asText, .of "score" asReal, .of "bbox" asBox]

/-- A prediction, from an object or from the list of its fields. -/
def shape : Shape Prediction
  | .object members => do
    Members.check fields false [] members
    let label ← Members.required members "class" asText
    let score ← Members.required members "score" asReal
    let box ← Members.required members "bbox" asBox
    return ⟨label, score, box⟩
  | .list elements => do
    let wanted := "struct Prediction with 3 elements"
    let label ← Elements.required elements 0 wanted asText
    let score ← Elements.required elements 1 wanted asReal
    let box ← Elements.required elements 2 wanted asBox
    Elements.noMoreThan elements 3
    return ⟨label, score, box⟩
  | other => wrongType other "struct Prediction"

end Prediction

end FrameCourier.Wire
