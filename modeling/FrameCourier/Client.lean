import FrameCourier.Report
import FrameCourier.System
import FrameCourier.Wire.Request

/-!
# Asking for a detection

A client connects, sends one request, and reads until what it has received is one complete
document.  It looks at nothing after that document, and it does not wait for the service to
end the connection.  A response whose count or scores contradict its predictions is refused.
-/

namespace FrameCourier.Client

open Wire

/-- What is wrong with a response. -/
inductive ResponseFault where
  | envelope (mismatch : Document.Mismatch)
  | countDiffers (objects predictions : Nat)
  | scoreOutside (score : Number.Double) (label : String)
  /-- A refusal in the words of another kind of client. -/
  | stated (reason : String)
  deriving DecidableEq, Repr

def ResponseFault.message : ResponseFault → String
  | envelope mismatch => mismatch.message
  | countDiffers objects predictions =>
    "objects is " ++ toString objects ++ " but " ++ toString predictions ++
      " predictions were sent"
  | scoreOutside score label =>
    "score " ++ score.text .message ++ " of " ++ label ++ " is outside [0, 1]"
  | stated reason => reason

/-- Why a request has no report. -/
inductive Error where
  | connect (path : String) (fault : SystemFault)
  | transport (fault : SystemFault)
  | connectionEnded (received : Nat)
  | invalidResponse (fault : ResponseFault)
  | protocol (error : Wire.Error)
  deriving DecidableEq, Repr

def Error.kind : Error → ErrorKind
  | connect _ _ => .transport
  | transport _ => .transport
  | connectionEnded _ => .framing
  | invalidResponse _ => .validation
  | protocol error => error.kind

def Error.message : Error → String
  | connect path fault =>
    "Failed to connect to detection service at " ++ Text.quoted path ++ ": " ++ fault.message
  | transport fault => "Socket I/O failed: " ++ fault.message
  | connectionEnded received =>
    "Connection ended before a complete response (" ++ toString received ++ " bytes received)"
  | invalidResponse fault => "Invalid response: " ++ fault.message
  | protocol error => error.message

/-- The message and the messages of what it comes from, the nearest first. -/
def Error.chain (error : Error) : List String :=
  match error with
  | connect _ fault => [error.message, fault.message]
  | transport fault => [error.message, fault.message]
  | connectionEnded _ => [error.message]
  | invalidResponse _ => [error.message]
  | protocol source => source.chain

/-- Whether a score lies between 0 and 1; a not-a-number does not. -/
def isUnitScore (score : Number.Double) : Bool :=
  (Number.Binary.zero _ false).le score && score.le (Number.Binary.ofInt _ 1)

/-- What is wrong with a response that has the shape of one. -/
def inconsistency? : Response → Option ResponseFault
  | .failure _ => none
  | .success report =>
    if report.objects.toNat ≠ report.predictions.length then
      some (.countDiffers report.objects.toNat report.predictions.length)
    else
      (report.predictions.find? fun prediction => !isUnitScore prediction.score).map
        fun prediction => .scoreOutside prediction.score prediction.label

/-- What one read from the service comes to. -/
inductive Arrival where
  | chunk (bytes : Bytes)
  /-- The service ended the connection, orderly or not. -/
  | ended
  | failed (fault : SystemFault)
  deriving DecidableEq, Repr

/-- What is known after the whole buffer was looked at: nothing yet, or the outcome. -/
def judge (buffer : Bytes) : Option (Except Error Response) :=
  match parse? Response.shape buffer with
  | .ok none => none
  | .ok (some response) =>
    match inconsistency? response with
    | some fault => some (.error (.invalidResponse fault))
    | none => some (.ok response)
  | .error (.invalidEnvelope mismatch) =>
    some (.error (.invalidResponse (.envelope mismatch)))
  | .error error => some (.error (.protocol error))

/-- Reads until the buffer is complete.  When no more arrives, the connection has ended. -/
def receive (buffer : Bytes) : List Arrival → Except Error Response
  | [] => .error (.connectionEnded buffer.length)
  | .ended :: _ => .error (.connectionEnded buffer.length)
  | .failed fault :: _ => .error (.transport fault)
  | .chunk bytes :: rest =>
    match judge (buffer ++ bytes) with
    | none => receive (buffer ++ bytes) rest
    | some outcome => outcome

/-- The request for a frame, made at the time `now`. -/
def frameRequest (frame : Frame) (now : String) : Except Error ImageRequest :=
  match frame.image with
  | .error fault => .error (.protocol (.invalidPayload fault))
  | .ok image =>
    .ok ((ImageRequest.ofImage image frame.format now).withOrigin frame.index frame.sourceName)

/-- The bytes that ask for a raw image. -/
def rawRequest (image : Bytes) : Bytes := image ++ endMarker

/-- The report of what a connection came to, its time `now` if it states none. -/
def report (arrivals : List Arrival) (now : Time.Instant) : Except Error Report :=
  match receive [] arrivals with
  | .error error => .error error
  | .ok response => (Report.ofResponse response now).mapError .protocol

/-- Whom a client asks: for the bytes of a request, what arrives, or why they could not be sent. -/
abbrev Peer := Bytes → Except Error (List Arrival)

/-- Asks for the detection of a frame; the request is made at `stamp` and the report at `now`. -/
def detectFrame (peer : Peer) (stamp : String) (now : Time.Instant) (frame : Frame) :
    Except Error Report := do
  let request ← frameRequest frame stamp
  let arrivals ← peer request.toBytes
  report arrivals now

/-- Asks for the detection of a raw image. -/
def detectRaw (peer : Peer) (now : Time.Instant) (image : Bytes) : Except Error Report := do
  let arrivals ← peer (rawRequest image)
  report arrivals now

end FrameCourier.Client
