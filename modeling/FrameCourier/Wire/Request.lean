import FrameCourier.Wire.Framing
import FrameCourier.Document.Printer

/-!
# Requests

A request asks for the detection of the objects on one image.  It may say which frame of
which file the image is.  No other members are allowed, and no other type of request.
-/

namespace FrameCourier.Wire

open Document

/-- A request for the detection of objects on an image. -/
structure ImageRequest where
  /-- The image in base64. -/
  imageData : String
  format : String
  timestamp : String
  originFrame : Option UInt32
  originFileName : Option String
  deriving DecidableEq, Repr

namespace ImageRequest

/-- The request for an image, made at the time `now`. -/
def ofImage (image : Bytes) (format now : String) : ImageRequest :=
  ⟨Base64.encode image, format, now, none, none⟩

/-- The request with the frame and the file that its image comes from. -/
def withOrigin (request : ImageRequest) (frame : UInt32) (fileName : String) : ImageRequest :=
  { request with originFrame := some frame, originFileName := some fileName }

/-- The image itself. -/
def image (request : ImageRequest) : Except Error Bytes := decodePayload request.imageData

/-- The members that are sent, in their order. -/
def members (request : ImageRequest) : Members :=
  [("type", .text "image_detection"), ("image_data", .text request.imageData),
      ("format", .text request.format), ("timestamp", .text request.timestamp)] ++
    (request.originFrame.map fun frame =>
      ("originalFrame", Document.number (.integer frame.toNat))).toList ++
    (request.originFileName.map fun name => ("originalFileName", Document.text name)).toList

def toDocument (request : ImageRequest) : Document := .object request.members

/-- The request as it is sent. -/
def toBytes (request : ImageRequest) : Bytes := request.toDocument.compact

def fields : List Field :=
  [.of "image_data" asText, .of "format" asText, .of "timestamp" asText,
    .of "originalFrame" (Document.optional asUInt32),
    .of "originalFileName" (Document.optional asText)]

/-- A request without its tag. -/
def ofUntagged : Untagged → Except Mismatch ImageRequest
  | .members members => do
    Members.check fields true [] members
    let imageData ← Members.required members "image_data" asText
    let format ← Members.required members "format" asText
    let timestamp ← Members.required members "timestamp" asText
    let frame ← Members.optional members "originalFrame" asUInt32
    let name ← Members.optional members "originalFileName" asText
    return ⟨imageData, format, timestamp, frame, name⟩
  | .elements elements => do
    let wanted := "struct ImageDetection with 5 elements"
    let imageData ← Elements.required elements 0 wanted asText
    let format ← Elements.required elements 1 wanted asText
    let timestamp ← Elements.required elements 2 wanted asText
    let frame ← Elements.optional elements 3 asUInt32
    let name ← Elements.optional elements 4 asText
    Elements.noMoreThan elements 5
    return ⟨imageData, format, timestamp, frame, name⟩

/-- Requests are told apart by their type, of which there is one. -/
def shape : Shape ImageRequest := fun document => do
  let (tag, untagged) ← untag "DetectionRequest" "type" document
  let () ← asVariant [("image_detection", ())] tag
  ofUntagged untagged

end ImageRequest

end FrameCourier.Wire
