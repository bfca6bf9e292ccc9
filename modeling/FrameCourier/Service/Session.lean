import FrameCourier.Service.Handler

/-!
# Sessions

A session serves one client: it reads until a request is assembled, has it answered, writes
the answer and ends.  While a request is in flight it goes on reading, to no effect; once it
is answered nothing is read any more.  The answer is written in as many parts as the socket
takes it in.

A session also ends when the client does without having sent anything, when a read or a
write fails, when the answering of its request crashes, and when it is dropped with all
others at the end of the service.

How a request is answered is not the session's business: it is told the response.
-/

namespace FrameCourier.Service

open Wire

namespace Session

/-- How far a session is. -/
inductive Phase where
  /-- There is no request yet. -/
  | reading
  /-- The request is being answered. -/
  | handling (request : InboundRequest)
  /-- The response is being written, `left` of it not yet. -/
  | writing (response : Response) (left : Bytes)
  /-- Nothing is done any more; the response was written, in whole or in part. -/
  | ended (response : Option Response)
  deriving DecidableEq, Repr

namespace Phase

/-- The response that was made. -/
def response : Phase → Option Response
  | writing response _ => some response
  | ended response => response
  | _ => none

/-- Whether reads are waited for. -/
def reads : Phase → Bool
  | reading | handling _ => true
  | _ => false

end Phase

end Session

/-- The service of one client. -/
structure Session where
  connection : Connection
  /-- Whether more may come from the client. -/
  peerOpen : Bool
  phase : Session.Phase
  /-- The bytes that were written to the client. -/
  output : Bytes
  deriving DecidableEq, Repr

namespace Session

/-- The session of a client that was just accepted. -/
def fresh (id : UInt64) : Session := ⟨.fresh id, true, .reading, []⟩

/-- The request that is being answered. -/
def inFlight (session : Session) : Option InboundRequest :=
  match session.phase with
  | .handling request => some request
  | _ => none

/-- The response that is written to the client, whether or not all of it is. -/
def response (session : Session) : Option Response := session.phase.response

/-- Whether the session has ended, which the client sees. -/
def ended (session : Session) : Bool :=
  match session.phase with
  | .ended _ => true
  | _ => false

/-- Whether the session reads what comes from the client. -/
def isReading (session : Session) : Bool := session.peerOpen && session.phase.reads

/-- What can happen to a session. -/
inductive Event where
  /-- A read gave bytes. -/
  | chunk (bytes : Bytes)
  /-- A read found that the client sends no more. -/
  | endOfStream
  | readFailed
  /-- The request in flight has its response. -/
  | answered (response : Response)
  /-- The request in flight will never have one. -/
  | crashed
  /-- The socket took so many bytes of the response. -/
  | wrote (count : Nat)
  /-- All of the response is written, and the writing side is shut down. -/
  | finished
  | writeFailed
  /-- The session is dropped where it is. -/
  | dropped
  deriving DecidableEq, Repr

/-- Ends a session where it is. -/
def stop (session : Session) : Session := { session with phase := .ended session.response }

/-- Takes in what a connection made of a read. -/
def received (session : Session) (result : Connection × Option InboundRequest) :
    Session × Option InboundRequest :=
  match result.2 with
  | some request =>
    ({ session with connection := result.1, phase := .handling request }, some request)
  | none =>
    let next := { session with connection := result.1 }
    (if !session.peerOpen && !result.1.isBusy then next.stop else next, none)

/-- Begins to write the response of the request in flight. -/
def answer (session : Session) (response : Response) : Session :=
  { session with
    connection := session.connection.onDetectorResolved
    phase := .writing response response.toBytes }

/-- What an event makes of a session, and the request that it brings about.  An event that
the session does not wait for changes nothing. -/
def step (session : Session) : Event → Session × Option InboundRequest
  | .chunk bytes =>
    if session.isReading then session.received (session.connection.onData bytes)
    else (session, none)
  | .endOfStream =>
    if session.isReading then
      { session with peerOpen := false }.received session.connection.onPeerClosed
    else (session, none)
  | .readFailed =>
    if session.isReading then
      ({ session with connection := session.connection.onReadFailed }.stop, none)
    else (session, none)
  | .answered response =>
    match session.phase with
    | .handling _ => (session.answer response, none)
    | _ => (session, none)
  | .crashed =>
    match session.phase with
    | .handling _ => (session.stop, none)
    | _ => (session, none)
  | .wrote count =>
    match session.phase with
    | .writing response left =>
      ({ session with
          phase := .writing response (left.drop count)
          output := session.output ++ left.take count }, none)
    | _ => (session, none)
  | .finished =>
    match session.phase with
    | .writing _ [] =>
      ({ session with connection := session.connection.onWriteComplete }.stop, none)
    | _ => (session, none)
  | .writeFailed =>
    match session.phase with
    | .writing _ _ => (session.stop, none)
    | _ => (session, none)
  | .dropped => (session.stop, none)

/-- A session after several events. -/
def after (session : Session) (events : List Event) : Session :=
  events.foldl (fun session event => (session.step event).1) session

/-- Has the request in flight answered and the whole response written, or crashed. -/
def settle (session : Session) : Option Response → Session
  | some response =>
    session.after [.answered response, .wrote response.toBytes.length, .finished]
  | none => session.after [.crashed]

/-- A session after events when every request is handled at once, and the images that the
detector is called on meanwhile. -/
def serve (handle : InboundRequest → Handled) (session : Session) :
    List Event → Session × List Bytes
  | [] => (session, [])
  | event :: rest =>
    match session.step event with
    | (next, none) => serve handle next rest
    | (next, some request) =>
      let handled := handle request
      let (last, calls) := serve handle (next.settle handled.response) rest
      (last, handled.calls ++ calls)

end Session

end FrameCourier.Service
