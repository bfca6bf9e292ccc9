import FrameCourier.Base64
import FrameCourier.Text.Padded
import FrameCourier.Text.Utf8
import FrameCourier.Time.Instant

/-!
# Frames

A frame is one still image of a video.  Frames are numbered from 1 in the order of the
video, and an image without a name is named for its number.
-/

namespace FrameCourier

/-- The name that the image of the given number is stored under. -/
def numberedImageName (index : UInt32) : String :=
  "frame_" ++ Text.padded 5 index.toNat ++ ".jpg"

/-- How the payload of a frame holds its image. -/
inductive Encoding where
  | raw
  | base64
  deriving DecidableEq, Repr

/-- One still image of a video. -/
structure Frame where
  /-- The place of the image in the video, from 1. -/
  index : UInt32
  sourceName : String
  format : String
  payload : Bytes
  encoding : Encoding
  capturedAt : Time.Instant
  /-- The size of the image itself, however it is encoded. -/
  size : UInt64
  deriving DecidableEq, Repr

namespace Frame

/-- The frame of an image, taken at the time `now`. -/
def ofImage (index : UInt32) (image : Bytes) (format : String) (now : Time.Instant) : Frame :=
  ⟨index, numberedImageName index, format, image, .raw, now, UInt64.ofNat image.length⟩

/-- The frames of the images of a video, in their order, taken at the time `now`. -/
def ofImages (images : List Bytes) (format : String) (now : Time.Instant) : List Frame :=
  images.mapIdx fun position image => ofImage (UInt32.ofNat (position + 1)) image format now

/-- The image itself. -/
def image (frame : Frame) : Except Base64.Fault Bytes :=
  match frame.encoding with
  | .raw => .ok frame.payload
  | .base64 => Base64.decodeBytes frame.payload

/-- The image in base64; what is in base64 already stays as it is. -/
def base64 (frame : Frame) : String :=
  match frame.encoding with
  | .raw => Base64.encode frame.payload
  | .base64 => Text.lossy frame.payload

end Frame

/-- An image of the output video and its place there, from 1. -/
structure OutputFrame where
  index : UInt32
  image : Bytes
  deriving DecidableEq, Repr

end FrameCourier
