import FrameCourier.Wire.Framing
import FrameCourier.Wire.Prediction
import FrameCourier.Document.Printer

/-!
# Responses

The answer to a request is the list of the predictions, or the reason why there is none.
Members that are not known are passed over, so that a service may say more.
-/

namespace FrameCourier.Wire

open Document

/-- The objects that were found. -/
structure Success where
  objects : UInt64
  predictions : List Prediction
  timestamp : String
  requestTimestamp : Option String
  /-- The image with every prediction drawn on it, in base64. -/
  annotatedImage : Option String
  deriving DecidableEq, Repr

/-- Why no objects can be reported. -/
structure Failure where
  message : String
  timestamp : String
  deriving DecidableEq, Repr

/-- The members that are sent, in their order. -/
def Success.members (report : Success) : Members :=
  [("status", .text "success"),
      ("objects", Document.number (.integer report.objects.toNat)),
      ("predictions", .list (report.predictions.map Prediction.toDocument)),
      ("timestamp", .text report.timestamp)] ++
    (report.requestTimestamp.map fun time =>
      ("original_timestamp", Document.text time)).toList ++
    (report.annotatedImage.map fun image => ("annotated_image", Document.text image)).toList

/-- The members that are sent, in their order. -/
def Failure.members (report : Failure) : Members :=
  [("status", .text "error"), ("message", .text report.message),
    ("timestamp", .text report.timestamp)]

inductive Response where
  | success (report : Success)
  | failure (report : Failure)
  deriving DecidableEq, Repr

namespace Response

/-- The response with all predictions, made at the time `now`. -/
def ofPredictions (predictions : List Prediction) (requestTimestamp : Option String)
    (now : String) : Response :=
  .success ⟨UInt64.ofNat predictions.length, predictions, now, requestTimestamp, none⟩

/-- The response that reports an error, made at the time `now`. -/
def ofError (message now : String) : Response := .failure ⟨message, now⟩

/-- Adds the annotated image to a success; a failure has none. -/
def withAnnotatedImage (response : Response) (image : Bytes) : Response :=
  match response with
  | .success report => .success { report with annotatedImage := some (Base64.encode image) }
  | .failure report => .failure report

def timestamp : Response → String
  | .success report => report.timestamp
  | .failure report => report.timestamp

def toDocument : Response → Document
  | .success report => .object report.members
  | .failure report => .object report.members

/-- The response as it is sent. -/
def toBytes (response : Response) : Bytes := response.toDocument.compact

end Response

namespace Success

def fields : List Field :=
  [.of "objects" asCount, .of "predictions" (asList Prediction.shape), .of "timestamp" asText,
    .of "original_timestamp" (Document.optional asText),
    .of "annotated_image" (Document.optional asText)]

/-- A success without its tag. -/
def ofUntagged : Untagged → Except Mismatch Success
  | .members members => do
    Members.check fields false [] members
    let objects ← Members.required members "objects" asCount
    let predictions ← Members.required members "predictions" (asList Prediction.shape)
    let timestamp ← Members.required members "timestamp" asText
    let requestTimestamp ← Members.optional members "original_timestamp" asText
    let annotatedImage ← Members.optional members "annotated_image" asText
    return ⟨objects, predictions, timestamp, requestTimestamp, annotatedImage⟩
  | .elements elements => do
    let wanted := "struct DetectionSuccess with 5 elements"
    let objects ← Elements.required elements 0 wanted asCount
    let predictions ← Elements.required elements 1 wanted (asList Prediction.shape)
    let timestamp ← Elements.required elements 2 wanted asText
    let requestTimestamp ← Elements.optional elements 3 asText
    let annotatedImage ← Elements.optional elements 4 asText
    Elements.noMoreThan elements 5
    return ⟨objects, predictions, timestamp, requestTimestamp, annotatedImage⟩

end Success

namespace Failure

def fields : List Field := [.of "message" asText, .of "timestamp" asText]

/-- A failure without its tag. -/
def ofUntagged : Untagged → Except Mismatch Failure
  | .members members => do
    Members.check fields false [] members
    let message ← Members.required members "message" asText
    let timestamp ← Members.required members "timestamp" asText
    return ⟨message, timestamp⟩
  | .elements elements => do
    let wanted := "struct DetectionFailure with 2 elements"
    let message ← Elements.required elements 0 wanted asText
    let timestamp ← Elements.required elements 1 wanted asText
    Elements.noMoreThan elements 2
    return ⟨message, timestamp⟩

end Failure

namespace Response

/-- Responses are told apart by their status. -/
def shape : Shape Response := fun document => do
  let (tag, untagged) ← untag "DetectionResponse" "status" document
  let isSuccess ← asVariant [("success", true), ("error", false)] tag
  if isSuccess then return .success (← Success.ofUntagged untagged)
  else return .failure (← Failure.ofUntagged untagged)

end Response

end FrameCourier.Wire
