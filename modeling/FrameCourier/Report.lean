import FrameCourier.Frame
import FrameCourier.Time.Notation
import FrameCourier.Wire.Response

/-!
# Reports

A report is what a detection comes to on the side that asked for it: the predictions, or a
message, and when the service answered.
-/

namespace FrameCourier

inductive ReportStatus where
  | success
  | error
  deriving DecidableEq, Repr

/-- The outcome of one request. -/
structure Report where
  status : ReportStatus
  objectCount : UInt64
  predictions : List Wire.Prediction
  /-- The image with the predictions drawn on it. -/
  annotated : Option Bytes
  respondedAt : Time.Instant
  errorMessage : Option String
  deriving DecidableEq, Repr

namespace Report

def isSuccess (report : Report) : Bool := report.status = .success

/-- The time that a response states; the time `now` if it is not readable. -/
def responseTime (text : String) (now : Time.Instant) : Time.Instant :=
  match Time.readStrict text with
  | .ok t => t
  | .error _ => now

/-- The report of a response that arrived at the time `now`. -/
def ofResponse (response : Wire.Response) (now : Time.Instant) : Except Wire.Error Report :=
  let respondedAt := responseTime response.timestamp now
  match response with
  | .success success => do
    let annotated ← match success.annotatedImage with
      | none => pure none
      | some image => (Wire.decodePayload image).map some
    return ⟨.success, success.objects, success.predictions, annotated, respondedAt, none⟩
  | .failure failure => .ok ⟨.error, 0, [], none, respondedAt, some failure.message⟩

end Report

end FrameCourier
