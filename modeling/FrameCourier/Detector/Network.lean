import FrameCourier.Detector.Basic
import FrameCourier.Detector.Labels
import FrameCourier.Detector.Suppression
import FrameCourier.Picture.Codec

/-!
# Detections of a network

A network answers an image with a table of numbers.  A row of it is a box, given by its
center and its extents on the 640 by 640 pixels that the network sees, and a score for each
class.  Rows whose best score is high enough are candidates; those that suppression keeps
are the detections, on the pixels of the image itself.
-/

namespace FrameCourier.Network

open Number

/-- The table that a network answers: its extents, and its values, those of the last axis
next to each other. -/
structure Table where
  shape : List Nat
  values : Array Single
  deriving Repr

/-- Why a network has no table for an image. -/
inductive Fault where
  | run (reason : String)
  | extract (reason : String)
  /-- The extents of the table that are not zero have too great a product. -/
  | overflow
  /-- The table has fewer values than its shape. -/
  | tooFewValues
  /-- The table has more values than its shape. -/
  | tooManyValues
  deriving DecidableEq, Repr

def Fault.message : Fault → String
  | run reason => "inference failed: " ++ reason
  | extract reason => "failed to extract tensor: " ++ reason
  | overflow => "invalid tensor shape: ShapeError/Overflow: arithmetic overflow"
  | tooFewValues => "invalid tensor shape: ShapeError/OutOfBounds: out of bounds indexing"
  | tooManyValues => "invalid tensor shape: ShapeError/IncompatibleShape: incompatible shapes"

/-- Checks that a table has the values that its shape wants.  The places of values are
counted in words with a sign, as if no extent were zero. -/
def Table.checked (table : Table) : Except Fault Table :=
  let product := fun extents : List Nat => extents.foldl (fun size extent => size * extent) 1
  let wanted := product table.shape
  if greatestInt64 < Int.ofNat (product (table.shape.filter (· ≠ 0))) then .error .overflow
  else if table.values.size < wanted then .error .tooFewValues
  else if wanted < table.values.size then .error .tooManyValues
  else .ok table

/-- The rows along the first axis, with the first value along the third one each. -/
def Table.rows (table : Table) : List (List Single) :=
  match table.shape with
  | [rows, columns, depth] =>
    (List.range rows).map fun row => (List.range columns).filterMap fun column =>
      table.values[(row * columns + column) * depth]?
  | _ => []

/-- The number of pixels that the network sees in each direction. -/
def inputExtent : Single := Binary.ofInt _ 640

/-- The greatest score and the class that it is for, the first one of several; a comparison
with what is not a number is never in favour of the later score. -/
def bestClass (scores : List Single) : Option (Nat × Single) :=
  match scores.zipIdx with
  | [] => none
  | (first, _) :: rest =>
    some (rest.foldl (fun best score => if best.2.lt score.1 then (score.2, score.1) else best)
      (0, first))

/-- The candidate of a row, if its best score is not below `least`. -/
def candidate? (least scaleX scaleY : Single) (row : List Single) : Option Candidate :=
  match row with
  | x :: y :: width :: height :: scores =>
    match bestClass scores with
    | none => none
    | some (classNumber, score) =>
      if score.lt least then none
      else
        let two := Binary.ofInt _ 2
        let (x, y) := (x * scaleX, y * scaleY)
        let (width, height) := (width * scaleX, height * scaleY)
        some ⟨classNumber, score, x - width / two, y - height / two, x + width / two,
          y + height / two⟩
  | _ => none

/-- Whether a candidate may come before another one: not after a more confident one. -/
def Candidate.le (a b : Candidate) : Bool := decide (b.confidence.totalKey ≤ a.confidence.totalKey)

/-- The candidates of a table for an image of the given extents, the most confident first
and equally confident ones in the order of their rows. -/
def candidates (least : Single) (width height : Nat) (table : Table) : List Candidate :=
  let scaleX := Binary.ofInt _ width / inputExtent
  let scaleY := Binary.ofInt _ height / inputExtent
  (table.rows.filterMap (candidate? least scaleX scaleY)).mergeSort Candidate.le

/-- The detection of a candidate; a class past the last label is named for its number. -/
def detectionOf (labels : List ColorLabel) (candidate : Candidate) : Detection :=
  let (label, color) := match labels[candidate.classNumber]? with
    | some known => (known.label, some known.color)
    | none => ("Unknown class " ++ toString candidate.classNumber, none)
  ⟨label, candidate.confidence,
    ⟨candidate.left, candidate.top, candidate.right - candidate.left,
      candidate.bottom - candidate.top⟩, color⟩

/-- The detections of a table for an image of the given extents, if suppression ends. -/
def detections? (labels : List ColorLabel) (least : Single) (width height : Nat)
    (table : Table) : Option (List Detection) :=
  (Candidate.suppress (candidates least width height table)).map (·.map (detectionOf labels))

/-- What the network's answer on an image comes to; the image is decoded first.  There is
no result if suppression does not end. -/
def detect (codec : Picture.ImageCodec) (labels : List ColorLabel) (least : Single)
    (answer : Except Fault Table) (image : Bytes) :
    Except DetectorFault (Option (List Detection)) :=
  match codec.decode image with
  | .error reason => .error (.undecodable reason)
  | .ok canvas =>
    match answer.bind Table.checked with
    | .error fault => .error (.inferenceFailed fault.message)
    | .ok table => .ok (detections? labels least canvas.width canvas.height table)

/-! ## Loading -/

/-- Why a detector cannot be set up: its labels are read before its model. -/
inductive SetupError where
  | labels (fault : LabelsFault)
  | model (reason : String)
  deriving DecidableEq, Repr

def SetupError.message : SetupError → String
  | labels fault => fault.message
  | model reason => reason

/-- The labels of a detector, if it can be set up: the content of the labels file, if it
exists, and why the model is not loaded, if it is not. -/
def setup (labelsFile : Option Bytes) (modelFault : Option String) :
    Except SetupError (List ColorLabel) :=
  match labelsFile with
  | none => .error (.labels (.unreadable .noEntry))
  | some content =>
    match ColorLabel.read content with
    | .error fault => .error (.labels fault)
    | .ok labels =>
      match modelFault with
      | some reason => .error (.model reason)
      | none => .ok labels

end FrameCourier.Network
