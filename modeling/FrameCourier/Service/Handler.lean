import FrameCourier.Picture.Outline
import FrameCourier.Service.Connection
import FrameCourier.Wire.Response

/-!
# Answering requests

A request that is none, or whose image does not decode, is answered without a call of the
detector; otherwise the detector is called once, on the image.  An annotation that fails is
left out.  A drawing that leaves the image ends the answering: there is no response then.

`plan` decides whether the detector is called and on what, `respond` makes the response of
its answer, and `handle` is both together, with the calls that it makes.
-/

namespace FrameCourier.Service

open Wire Picture

/-- How detections are made and reported. -/
structure DetectionSettings where
  annotate : Bool
  /-- How many detections may run at once; as many as there are requests if not set. -/
  maxConcurrentDetections : Option Nat
  jpegQuality : UInt8
  deriving DecidableEq, Repr

namespace DetectionSettings

def default : DetectionSettings := ⟨true, none, 90⟩

/-- How many detections may run at once, if that is limited; never none at all. -/
def permits (settings : DetectionSettings) : Option Nat :=
  settings.maxConcurrentDetections.map (max 1)

end DetectionSettings

/-- What a request needs: an answer at once, or the detection of an image. -/
inductive Plan where
  | refuse (message : String)
  | detect (image : Bytes) (requestTimestamp : Option String)
  deriving DecidableEq, Repr

/-- What is done about a request. -/
def plan : InboundRequest → Plan
  | .envelope request =>
    match request.image with
    | .ok image => .detect image (some request.timestamp)
    | .error error => .refuse error.message
  | .raw image => .detect image none
  | .invalid reason => .refuse reason

/-- The response of a detector's answer on an image, at the time `now`; none if the drawing
of the answer leaves the image. -/
def respond (codec : ImageCodec) (settings : DetectionSettings) (now : String) (image : Bytes)
    (requestTimestamp : Option String) (answer : Except DetectorFault (List Detection)) :
    Option Response :=
  match answer with
  | .error fault => some (.ofError fault.message now)
  | .ok detections =>
    let response :=
      Response.ofPredictions (detections.map Detection.toPrediction) requestTimestamp now
    if settings.annotate then
      match annotate? codec image detections settings.jpegQuality with
      | none => none
      | some (.ok annotated) => some (response.withAnnotatedImage annotated)
      | some (.error _) => some response
    else some response

/-- What the handling of a request has done and come to. -/
structure Handled where
  /-- The images that the detector was called on. -/
  calls : List Bytes
  /-- The response; none if the handling ended without one. -/
  response : Option Response
  deriving DecidableEq, Repr

namespace Handled

/-- All the bytes that the sender of the request is sent. -/
def output (handled : Handled) : Bytes :=
  match handled.response with
  | some response => response.toBytes
  | none => []

theorem output_of_some {handled : Handled} {response : Response}
    (responds : handled.response = some response) : handled.output = response.toBytes := by
  simp only [output, responds]

theorem output_of_none {handled : Handled} (silent : handled.response = none) :
    handled.output = [] := by
  simp only [output, silent]

/-- Calls the detector on an image and goes on with its answer. -/
def call (detector : Detector) (image : Bytes)
    (next : Except DetectorFault (List Detection) → Option Response) : Handled :=
  ⟨[image], next (detector image)⟩

end Handled

/-- Handles a request, at the time `now`. -/
def handle (codec : ImageCodec) (settings : DetectionSettings) (detector : Detector)
    (now : String) (request : InboundRequest) : Handled :=
  match plan request with
  | .refuse message => ⟨[], some (.ofError message now)⟩
  | .detect image requestTimestamp =>
    .call detector image (respond codec settings now image requestTimestamp)

section

variable {codec : ImageCodec} {settings : DetectionSettings} {detector : Detector} {now : String}
  {request : InboundRequest}

theorem handle_of_refuse {message : String} (planned : plan request = .refuse message) :
    handle codec settings detector now request = ⟨[], some (.ofError message now)⟩ := by
  simp only [handle, planned]

theorem handle_of_detect {image : Bytes} {requestTimestamp : Option String}
    (planned : plan request = .detect image requestTimestamp) :
    handle codec settings detector now request =
      ⟨[image], respond codec settings now image requestTimestamp (detector image)⟩ := by
  simp only [handle, planned, Handled.call]

/-- What comes of a request depends on the detector only where it is called. -/
theorem handle_congr {other : Detector}
    (same : ∀ image ∈ (handle codec settings detector now request).calls,
      detector image = other image) :
    handle codec settings detector now request = handle codec settings other now request := by
  cases planned : plan request with
  | refuse message => rw [handle_of_refuse planned, handle_of_refuse planned]
  | detect image requestTimestamp =>
    rw [handle_of_detect planned] at same ⊢
    rw [handle_of_detect planned, same image (List.mem_singleton_self image)]

end

end FrameCourier.Service
