import FrameCourier.Dispatch.Basic
import FrameCourier.Service.Session

/-!
# From a frame to its report

The whole way of one request: a client sends a frame, the service answers it in a session
of its own, and the client reads the answer.  Either side may get the bytes of the other in
any pieces.
-/

namespace FrameCourier.Delivery

open Service

/-- The session in which the service answers a request that comes in pieces, and the images
that it calls its detector on. -/
def served (handle : InboundRequest → Handled) (pieces : List Bytes) : Session × List Bytes :=
  (Session.fresh 1).serve handle (pieces.map .chunk)

/-- What has come of a frame, and of the detector on the way. -/
structure Delivered where
  outcome : Dispatch.Outcome
  /-- The images that the service has called its detector on. -/
  calls : List Bytes

/-- What the detection of a frame comes to at the time `now`, written `stamp` on the wire.
`cutRequest` and `cutResponse` say in which pieces bytes arrive. -/
def detect (handle : InboundRequest → Handled) (cutRequest cutResponse : Bytes → List Bytes)
    (stamp : String) (now : Time.Instant) (frame : Frame) : Delivered :=
  match Client.frameRequest frame stamp with
  | .error error => ⟨.error error, []⟩
  | .ok request =>
    let (session, calls) := served handle (cutRequest request.toBytes)
    ⟨Client.report ((cutResponse session.output).map .chunk ++ [.ended]) now, calls⟩

end FrameCourier.Delivery
