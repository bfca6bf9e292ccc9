import FrameCourier.Folder
import FrameCourier.Service.Session

/-!
# The service

The service accepts clients as long as it listens; what it has accepted it serves each on
its own, also when it does not listen any more.  All that clients share is the number of
detections that may run at once: a request that needs a detection takes a permit or waits
for one, and whoever waits longest has the next one.

A detection holds its permit while the detector is called, while the response is made of the
answer, and until it is told of.  A session waits for nothing in the meantime but for the
detector: while the response is made it hears of no other event.  A permit is also free again
when a session ends that waits for the detector.

When the service has ended, its sessions may be dropped wherever they wait.
-/

namespace FrameCourier.Service

open Picture Wire

/-- A detection that a client's request needs. -/
structure Task where
  client : Nat
  image : Bytes
  requestTimestamp : Option String
  deriving DecidableEq, Repr

/-- How far a detection is that holds a permit. -/
inductive Holder.Progress where
  /-- The detector is called. -/
  | calling
  /-- The detector has answered, and the response is made of its answer. -/
  | answered (answer : Except DetectorFault (List Detection))
  /-- The response is made, or the making of it has crashed. -/
  | drawn (response : Option Response)
  deriving Repr

/-- A detection that holds a permit. -/
structure Holder where
  task : Task
  progress : Holder.Progress
  deriving Repr

namespace Holder

/-- Whether the detector is called. -/
def isCalling (holder : Holder) : Bool :=
  match holder.progress with
  | .calling => true
  | _ => false

/-- Has the detector answer. -/
def answer (answer : Except DetectorFault (List Detection)) (holder : Holder) : Holder :=
  match holder.progress with
  | .calling => { holder with progress := .answered answer }
  | _ => holder

/-- Makes the response of the detector's answer. -/
def draw (codec : ImageCodec) (settings : DetectionSettings) (now : String) (holder : Holder) :
    Holder :=
  match holder.progress with
  | .answered answer =>
    { holder with
      progress := .drawn
        (respond codec settings now holder.task.image holder.task.requestTimestamp answer) }
  | _ => holder

end Holder

/-- The state of the service. -/
structure Server where
  settings : DetectionSettings
  /-- Whether clients are accepted. -/
  listening : Bool
  /-- The number of the next connection. -/
  nextId : UInt64
  /-- The session of each client that was accepted. -/
  sessions : Nat → Option Session
  /-- The permits that nobody holds; none at all if detections are not limited. -/
  free : Option Nat
  /-- The detections that wait for a permit, the longest waiting first. -/
  waiting : List Task
  /-- The detections that hold a permit, in the order in which they began. -/
  holding : List Holder

/-- What happens to the service. -/
inductive ServerEvent where
  | connected (client : Nat)
  /-- Something happens to a client's session. -/
  | session (client : Nat) (event : Session.Event)
  /-- The detector has answered for a client. -/
  | detected (client : Nat) (answer : Except DetectorFault (List Detection))
  /-- The response is made of the detector's answer for a client. -/
  | drawn (client : Nat)
  /-- The permit of a client's detection is given back, and its session is told what came of
  it. -/
  | released (client : Nat)
  | shutdown
  deriving Repr

/-- Whether an event can come to a session: what has come of its request the service alone
tells it, and it is dropped only when the service does not listen any more. -/
def Session.Event.mayCome (listening : Bool) : Session.Event → Bool
  | .answered _ | .crashed => false
  | .dropped => !listening
  | _ => true

/-- The event that tells a session what has come of its request. -/
def Session.Event.telling : Option Response → Session.Event
  | some response => .answered response
  | none => .crashed

namespace Server

/-- The service before the first client. -/
def start (settings : DetectionSettings) : Server :=
  ⟨settings, true, 1, fun _ => none, settings.permits, [], []⟩

/-- Sets the session of a client. -/
def withSession (server : Server) (client : Nat) (session : Session) : Server :=
  { server with
    sessions := fun other => if other = client then some session else server.sessions other }

/-- Lets a client's session know of an event. -/
def tell (server : Server) (client : Nat) (event : Session.Event) :
    Server × Option InboundRequest :=
  match server.sessions client with
  | none => (server, none)
  | some session =>
    let (next, request) := session.step event
    (server.withSession client next, request)

/-- Whether the session of a client has ended. -/
def isOver (server : Server) (client : Nat) : Bool := (server.sessions client).any (·.ended)

/-- Begins a detection if a permit is free; else it waits.  A detection that begins is
called. -/
def enter (server : Server) (task : Task) : Server × List Task :=
  match server.free with
  | none => ({ server with holding := server.holding ++ [⟨task, .calling⟩] }, [task])
  | some 0 => ({ server with waiting := server.waiting ++ [task] }, [])
  | some (free + 1) =>
    ({ server with free := some free, holding := server.holding ++ [⟨task, .calling⟩] }, [task])

/-- Gives a permit back: to whoever waits longest, or to nobody. -/
def release (server : Server) : Server × List Task :=
  match server.free, server.waiting with
  | none, _ => (server, [])
  | some _, task :: rest =>
    ({ server with waiting := rest, holding := server.holding ++ [⟨task, .calling⟩] }, [task])
  | some free, [] => ({ server with free := some (free + 1) }, [])

/-- Ends the detection of a client, whether it holds a permit or waits. -/
def leave (server : Server) (client : Nat) : Server × List Task :=
  if server.holding.any fun holder => holder.task.client = client then
    { server with
      holding := server.holding.eraseP fun holder => holder.task.client = client }.release
  else
    ({ server with
        waiting := server.waiting.eraseP fun task => task.client = client }, [])

/-- Takes the detection of a client further that holds a permit. -/
def proceed (server : Server) (client : Nat) (next : Holder → Holder) : Server :=
  { server with
    holding := server.holding.map fun holder =>
      if holder.task.client = client then next holder else holder }

/-- Whether the response of a client is being made. -/
def isDrawing (server : Server) (client : Nat) : Bool :=
  server.holding.any fun holder => holder.task.client = client && !holder.isCalling

/-- Sees to a request that a client's session has assembled. -/
def attend (server : Server) (now : String) (client : Nat) (request : InboundRequest) :
    Server × List Task :=
  match plan request with
  | .refuse message => ((server.tell client (.answered (.ofError message now))).1, [])
  | .detect image requestTimestamp => server.enter ⟨client, image, requestTimestamp⟩

/-- What an event makes of the service at the time `now`, and the detections that begin. -/
def step (codec : ImageCodec) (now : String) (server : Server) (event : ServerEvent) :
    Server × List Task :=
  match event with
  | .connected client =>
    if server.listening && (server.sessions client).isNone then
      ({ server with nextId := server.nextId + 1 }.withSession client (.fresh server.nextId), [])
    else (server, [])
  | .session client event =>
    if event.mayCome server.listening && !server.isDrawing client then
      match server.tell client event with
      | (told, some request) => told.attend now client request
      | (told, none) => if told.isOver client then told.leave client else (told, [])
    else (server, [])
  | .detected client answer => (server.proceed client (.answer answer), [])
  | .drawn client => (server.proceed client (.draw codec server.settings now), [])
  | .released client =>
    match server.holding.find? fun holder => holder.task.client = client with
    | some ⟨_, .drawn response⟩ => (server.tell client (.telling response)).1.leave client
    | _ => (server, [])
  | .shutdown => ({ server with listening := false }, [])

end Server

/-! ## The socket -/

/-- Why the service does not listen. -/
inductive BindError where
  /-- What stands at the path cannot be removed. -/
  | occupied (fault : SystemFault)
  | bind (path : String) (fault : SystemFault)
  deriving DecidableEq, Repr

def BindError.message : BindError → String
  | occupied fault => "Socket error: " ++ fault.message
  | bind path fault => "Failed to bind " ++ Text.quoted path ++ ": " ++ fault.message

/-- The most bytes that the path of a socket has. -/
def socketPathLimit : Nat := 107

/-- Makes the socket, in the place of a file that an earlier service left at its path.
`folder` is the folder that the path lies in, if there is one. -/
def bind (path name : String) (folder : Option Listing) : Except BindError Unit :=
  match folder.bind (·.lookup name) with
  | some (.folder _) => .error (.occupied .isDirectory)
  | _ =>
    if socketPathLimit < path.utf8ByteSize then .error (.bind path .socketPathTooLong)
    else if folder.isNone then .error (.bind path .noEntry)
    else .ok ()

end FrameCourier.Service
