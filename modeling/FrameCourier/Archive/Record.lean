import FrameCourier.Document.Printer
import FrameCourier.Report

/-!
# Archived frames

An archived frame is a frame with its image in base64 and, once it has been through a
detection, with what came of it.  An outcome is either the predictions or a message; which
of the two a stored outcome is shows in its fields alone.

A frame is stored under a name made of its number and of how far it has come.
-/

namespace FrameCourier.Archive

open Document

/-- What came of a frame's detection. -/
inductive Outcome where
  /-- The predictions, and the milliseconds from the capture to the response. -/
  | completed (timestamp : Time.Instant) (objects : UInt64)
    (predictions : List Wire.Prediction) (processingTime : Int64)
  | failed (timestamp : Time.Instant) (status error : String)
  deriving DecidableEq, Repr

/-- An archived frame. -/
structure Record where
  frameNumber : UInt32
  originFileName : String
  timestamp : Time.Instant
  format : String
  /-- The size of the image itself. -/
  size : UInt64
  /-- The image in base64. -/
  imageData : String
  detection : Option Outcome
  /-- The annotated image in base64. -/
  annotatedImageData : Option String
  deriving DecidableEq, Repr

/-- Why an archived frame gives no image. -/
inductive ImageFault where
  | undecodable (frame : UInt32) (fault : Base64.Fault)
  | sizeMismatch (frame : UInt32) (declared : UInt64) (actual : Nat)
  | notAnnotated (frame : UInt32)
  deriving DecidableEq, Repr

namespace Record

/-- The record of a frame that has not been through a detection. -/
def ofFrame (frame : Frame) : Record :=
  ⟨frame.index, frame.sourceName, frame.capturedAt, frame.format, frame.size, frame.base64, none,
    none⟩

/-- The frame of a record, with its image decoded and its size checked. -/
def toFrame (record : Record) : Except ImageFault Frame :=
  match Base64.decode record.imageData with
  | .error fault => .error (.undecodable record.frameNumber fault)
  | .ok image =>
    if image.length ≠ record.size.toNat then
      .error (.sizeMismatch record.frameNumber record.size image.length)
    else
      .ok ⟨record.frameNumber, record.originFileName, record.format, image, .raw,
        record.timestamp, record.size⟩

/-- The record with a failure of the given time. -/
def withFailure (record : Record) (time : Time.Instant) (message : String) : Record :=
  { record with detection := some (.failed time "error" message), annotatedImageData := none }

/-- The record with a report; a report of an error is a failure like any other. -/
def withReport (record : Record) (report : Report) : Record :=
  if report.isSuccess then
    { record with
      detection := some (.completed report.respondedAt report.objectCount report.predictions
        (.ofInt (report.respondedAt.millisecondsSince record.timestamp)))
      annotatedImageData := report.annotated.map Base64.encode }
  else record.withFailure report.respondedAt (report.errorMessage.getD "unknown error")

/-- The image that the frame gives to the output video: the annotated one, or else, if
`fallback`, the image of the frame itself. -/
def toOutputFrame (record : Record) (fallback : Bool) : Except ImageFault OutputFrame :=
  match record.annotatedImageData with
  | some annotated =>
    match Base64.decode annotated with
    | .ok image => .ok ⟨record.frameNumber, image⟩
    | .error fault => .error (.undecodable record.frameNumber fault)
  | none =>
    if fallback then
      match record.toFrame with
      | .ok frame => .ok ⟨record.frameNumber, frame.payload⟩
      | .error fault => .error fault
    else .error (.notAnnotated record.frameNumber)

/-- What the name of a record says of its outcome. -/
def outcomeMark : Option Outcome → String
  | none => ""
  | some (.completed ..) => "_detected"
  | some (.failed ..) => "_error"

/-- The name that the record is stored under. -/
def fileName (record : Record) : String :=
  "frame_" ++ Text.padded 5 record.frameNumber.toNat ++ outcomeMark record.detection ++ ".json"

end Record

/-! ## Names of stored frames -/

/-- The characters after a fixed start. -/
def afterStart? (start : String) (name : List Char) : Option (List Char) :=
  if start.toList.isPrefixOf name then some (name.drop start.length) else none

/-- The characters before a fixed end. -/
def beforeEnd? (ending : String) (name : List Char) : Option (List Char) :=
  if ending.toList.isSuffixOf name then some (name.take (name.length - ending.length)) else none

/-- The frame number that a file name carries, if it is the name of a stored frame: its
first digits, which have to fit 32 bits. -/
def frameNumber? (name : String) : Option UInt32 := do
  let rest ← afterStart? "frame_" name.toList
  if !".json".toList.isSuffixOf rest then none
  let digits := rest.takeWhile Char.isDigit
  let number := Time.digitsValue digits
  if digits.isEmpty || Number.greatestWord32 < number then none else some (UInt32.ofNat number)

/-- Whether a file name is that of a frame with an outcome. -/
def isProcessedName (name : String) : Bool :=
  "_detected.json".toList.isSuffixOf name.toList || "_error.json".toList.isSuffixOf name.toList

/-- Whether a file name is that of a frame without an outcome. -/
def isSourceName (name : String) : Bool :=
  match (afterStart? "frame_" name.toList).bind (beforeEnd? ".json") with
  | some digits => !digits.isEmpty && digits.all Char.isDigit
  | none => false

/-! ## Written form -/

namespace Outcome

def timeDocument (time : Time.Instant) : Document := .text time.text

def toDocument : Outcome → Document
  | .completed timestamp objects predictions processingTime =>
    .object [("timestamp", timeDocument timestamp),
      ("objects", .number (.integer objects.toNat)),
      ("predictions", .list (predictions.map Wire.Prediction.toDocument)),
      ("processingTime", .number (.integer processingTime.toInt))]
  | .failed timestamp status error =>
    .object [("timestamp", timeDocument timestamp), ("status", .text status),
      ("error", .text error)]

end Outcome

namespace Record

def toDocument (record : Record) : Document :=
  .object ([("frameNumber", Document.number (.integer record.frameNumber.toNat)),
      ("originalFileName", .text record.originFileName),
      ("timestamp", .text record.timestamp.text), ("format", .text record.format),
      ("size", .number (.integer record.size.toNat)), ("imageData", .text record.imageData)] ++
    (record.detection.map fun outcome => ("detection", outcome.toDocument)).toList ++
    (record.annotatedImageData.map fun image => ("annotatedImageData", Document.text image)).toList)

/-- The content of the file that stores the record. -/
def toBytes (record : Record) : Bytes := record.toDocument.pretty

end Record

end FrameCourier.Archive
