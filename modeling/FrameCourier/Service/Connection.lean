import FrameCourier.Wire.Request

/-!
# Connections

A connection gathers what one client sends and makes at most one request of it.  Its state
only ever moves forward: from waiting over gathering to processing, responding and closed.

The whole buffer is looked at anew with every chunk: as a document first, then for the end
marker of a raw image.  What a client leaves unfinished when it ends its side is taken for
a raw image, and a request that comes after the first one is dropped.
-/

namespace FrameCourier.Service

open Wire

/-- How far a connection is. -/
inductive ConnectionState where
  /-- Accepted, nothing received yet. -/
  | awaiting
  /-- Bytes were received, but no complete request. -/
  | accumulating
  /-- A request was handed out. -/
  | processing
  /-- The response is being written. -/
  | responding
  | closed
  deriving DecidableEq, Repr

namespace ConnectionState

def name : ConnectionState → String
  | awaiting => "Awaiting"
  | accumulating => "Accumulating"
  | processing => "Processing"
  | responding => "Responding"
  | closed => "Closed"

/-- Whether a request is in flight. -/
def isBusy : ConnectionState → Bool
  | processing | responding => true
  | _ => false

end ConnectionState

/-- What can happen to a connection. -/
inductive ConnectionEvent where
  | dataReceived
  | requestAssembled
  | detectorResolved
  | writeComplete
  | closedByPeer
  | failed
  deriving DecidableEq, Repr

/-- The state after an event; an event that does not fit the state changes nothing. -/
def ConnectionState.next : ConnectionState → ConnectionEvent → ConnectionState
  | .closed, _ => .closed
  | _, .failed => .closed
  | .processing, .closedByPeer => .processing
  | .responding, .closedByPeer => .responding
  | _, .closedByPeer => .closed
  | .awaiting, .dataReceived => .accumulating
  | .awaiting, .requestAssembled => .processing
  | .accumulating, .requestAssembled => .processing
  | .processing, .detectorResolved => .responding
  | .responding, .writeComplete => .closed
  | state, _ => state

/-- What is closed stays closed. -/
theorem ConnectionState.next_closed (event : ConnectionEvent) :
    ConnectionState.closed.next event = .closed := by
  cases event <;> rfl

theorem ConnectionState.next_failed (state : ConnectionState) : state.next .failed = .closed := by
  cases state <;> rfl

/-- The place of a state in the life of a connection. -/
def ConnectionState.rank : ConnectionState → Nat
  | awaiting => 0
  | accumulating => 1
  | processing => 2
  | responding => 3
  | closed => 4

/-- No event leads back to an earlier state. -/
theorem ConnectionState.rank_le_rank_next (state : ConnectionState) (event : ConnectionEvent) :
    state.rank ≤ (state.next event).rank := by
  cases state <;> cases event <;> decide

/-- A request as it was assembled. -/
inductive InboundRequest where
  | envelope (request : ImageRequest)
  /-- The bytes of an image, from a sender that uses no envelope. -/
  | raw (image : Bytes)
  /-- A complete document that is no request, and why. -/
  | invalid (reason : String)
  deriving DecidableEq, Repr

/-- How far the request of one client is, and what is gathered of it. -/
structure Connection where
  id : UInt64
  state : ConnectionState
  buffer : Bytes
  deriving DecidableEq, Repr

namespace Connection

/-- A connection that was just accepted. -/
def fresh (id : UInt64) : Connection := ⟨id, .awaiting, []⟩

/-- How many bytes are gathered. -/
def buffered (connection : Connection) : Nat := connection.buffer.length

/-- Whether a request is in flight. -/
def isBusy (connection : Connection) : Bool := connection.state.isBusy

def transition (connection : Connection) (event : ConnectionEvent) : Connection :=
  { connection with state := connection.state.next event }

/-- The request that a buffer holds, if it holds one. -/
def assemble? (buffer : Bytes) : Option InboundRequest :=
  match parse? ImageRequest.shape buffer with
  | .ok (some request) => some (.envelope request)
  | .error error => some (.invalid error.message)
  | .ok none =>
    match markerOffset? buffer with
    | none => none
    | some 0 => none
    | some offset => some (.raw (buffer.take offset))

/-- Hands a request out, unless one is in flight or the connection is closed. -/
def accept (connection : Connection) (request : InboundRequest) :
    Connection × Option InboundRequest :=
  if connection.isBusy || connection.state = .closed then (connection, none)
  else (connection.transition .requestAssembled, some request)

/-- Takes a chunk in, and hands out the request that the buffer has become. -/
def onData (connection : Connection) (chunk : Bytes) : Connection × Option InboundRequest :=
  let received := connection.transition .dataReceived
  if received.state = .closed then (received, none)
  else
    let grown := { received with buffer := received.buffer ++ chunk }
    match assemble? grown.buffer with
    | none => (grown, none)
    | some request => grown.accept request

/-- The client ended its side: what is gathered is an image, if nothing is in flight. -/
def onPeerClosed (connection : Connection) : Connection × Option InboundRequest :=
  if connection.isBusy || connection.buffer.isEmpty then
    (connection.transition .closedByPeer, none)
  else if connection.state = .closed then (connection, none)
  else connection.accept (.raw connection.buffer)

/-- Nothing more can be read or written: what is gathered is lost. -/
def onReadFailed (connection : Connection) : Connection :=
  { connection with buffer := [] }.transition .failed

def onDetectorResolved (connection : Connection) : Connection :=
  connection.transition .detectorResolved

def onWriteComplete (connection : Connection) : Connection :=
  connection.transition .writeComplete

/-- A call on a connection. -/
inductive Call where
  | data (chunk : Bytes)
  | peerClosed
  | readFailed
  | detectorResolved
  | writeComplete
  deriving DecidableEq, Repr

/-- What a call makes of a connection, and the request that it hands out. -/
def step (connection : Connection) : Call → Connection × Option InboundRequest
  | .data chunk => connection.onData chunk
  | .peerClosed => connection.onPeerClosed
  | .readFailed => (connection.onReadFailed, none)
  | .detectorResolved => (connection.onDetectorResolved, none)
  | .writeComplete => (connection.onWriteComplete, none)

/-- What each of several calls makes of a connection, and the request that it hands out. -/
def run (connection : Connection) : List Call → List (Connection × Option InboundRequest)
  | [] => []
  | call :: rest => connection.step call :: run (connection.step call).1 rest

/-- The requests that calls hand out. -/
def requests (connection : Connection) (calls : List Call) : List InboundRequest :=
  (connection.run calls).filterMap (·.2)

end Connection

end FrameCourier.Service
