import FrameCourier.Proofs.Service.OneRequest
import FrameCourier.Service.Session

/-!
# What an event does to a session

What an event does depends on how far the session is.  `Effect` lists it, one constructor for each
way; everything that is said of sessions over many events rests on that list.

A session that has no request yet has a connection that gathers and a client that may send more; one
whose request is in flight has a connection that is processing.  That is `Keeps`, and every event
keeps it.
-/

namespace FrameCourier.Service

open Wire

/-- The bytes that a call brings. -/
def Connection.Call.bytes : Connection.Call → Bytes
  | .data chunk => chunk
  | _ => []

namespace Session

/-! ## What an event is to a session -/

/-- The call that a session makes on its connection when it reads. -/
def Event.call? : Event → Option Connection.Call
  | .chunk bytes => some (.data bytes)
  | .endOfStream => some .peerClosed
  | .readFailed => some .readFailed
  | _ => none

/-- The calls that a session makes on its connection in an event because it reads. -/
def reads (session : Session) (event : Event) : List Connection.Call :=
  if session.isReading then event.call?.toList else []

/-- Whether a session learns of an event by itself, and is not told of it by the service. -/
def Event.isOwn : Event → Bool
  | .answered _ | .crashed => false
  | _ => true

/-- The response that a session begins to write in an event. -/
def writes (session : Session) : Event → List Response
  | .answered response => if session.inFlight.isSome then [response] else []
  | _ => []

/-- Whether an event cuts a session short: a read or a write of it fails, its request is never
answered, or it is dropped before its end. -/
def breaks (session : Session) : Event → Bool
  | .readFailed => session.isReading
  | .crashed => session.inFlight.isSome
  | .writeFailed => session.response.isSome && !session.ended
  | .dropped => !session.ended
  | _ => false

/-- What the phase of a session says of its connection. -/
def Keeps (session : Session) : Prop :=
  match session.phase with
  | .reading => session.connection.IsGathering ∧ session.peerOpen = true
  | .handling _ => session.connection.state = .processing
  | _ => True

/-- What an event does to a session, and the request that it brings about. -/
inductive Effect : Session → Event → Session → Option InboundRequest → Prop
  /-- More is gathered, which is no request yet. -/
  | gathered {connection next : Connection} {output chunk : Bytes}
    (made : connection.step (.data chunk) = (next, none)) (gathering : next.IsGathering)
    (kept : next.buffer = connection.buffer ++ chunk) :
    Effect ⟨connection, true, .reading, output⟩ (.chunk chunk) ⟨next, true, .reading, output⟩ none
  /-- What is gathered has become a request. -/
  | assembled {connection next : Connection} {output : Bytes} {event : Event}
    {call : Connection.Call} {peerOpen : Bool} {request : InboundRequest}
    (reads : event.call? = some call) (made : connection.step call = (next, some request))
    (processing : next.state = .processing) (kept : next.buffer = connection.buffer ++ call.bytes)
    (some : next.buffer ≠ []) (stays : event ≠ .readFailed) :
    Effect ⟨connection, true, .reading, output⟩ event ⟨next, peerOpen, .handling request, output⟩
      (.some request)
  /-- The client has ended without having sent anything. -/
  | deserted {connection next : Connection} {output : Bytes} (nothing : connection.buffer = [])
    (made : connection.step .peerClosed = (next, none)) (past : ¬ next.IsGathering) :
    Effect ⟨connection, true, .reading, output⟩ .endOfStream ⟨next, false, .ended none, output⟩ none
  /-- While a request is in flight, more is read to no effect. -/
  | overheard {connection next : Connection} {output : Bytes} {event : Event}
    {call : Connection.Call} {peerOpen : Bool} {request : InboundRequest}
    (reads : event.call? = .some call) (made : connection.step call = (next, none))
    (processing : next.state = .processing) (stays : event ≠ .readFailed) :
    Effect ⟨connection, true, .handling request, output⟩ event
      ⟨next, peerOpen, .handling request, output⟩ none
  | readFailed {connection : Connection} {phase : Phase} {output : Bytes}
    (waits : phase.reads = true) :
    Effect ⟨connection, true, phase, output⟩ .readFailed
      ⟨connection.onReadFailed, true, .ended none, output⟩ none
  | answered {connection : Connection} {peerOpen : Bool} {output : Bytes}
    {request : InboundRequest} {response : Response} :
    Effect ⟨connection, peerOpen, .handling request, output⟩ (.answered response)
      ⟨connection.onDetectorResolved, peerOpen, .writing response response.toBytes, output⟩ none
  | crashed {connection : Connection} {peerOpen : Bool} {output : Bytes}
    {request : InboundRequest} :
    Effect ⟨connection, peerOpen, .handling request, output⟩ .crashed
      ⟨connection, peerOpen, .ended none, output⟩ none
  | wrote {connection : Connection} {peerOpen : Bool} {output left : Bytes} {response : Response}
    {count : Nat} :
    Effect ⟨connection, peerOpen, .writing response left, output⟩ (.wrote count)
      ⟨connection, peerOpen, .writing response (left.drop count), output ++ left.take count⟩ none
  | finished {connection : Connection} {peerOpen : Bool} {output : Bytes} {response : Response} :
    Effect ⟨connection, peerOpen, .writing response [], output⟩ .finished
      ⟨connection.onWriteComplete, peerOpen, .ended (.some response), output⟩ none
  | writeFailed {connection : Connection} {peerOpen : Bool} {output left : Bytes}
    {response : Response} :
    Effect ⟨connection, peerOpen, .writing response left, output⟩ .writeFailed
      ⟨connection, peerOpen, .ended (.some response), output⟩ none
  | dropped {session : Session} (running : session.ended = false) :
    Effect session .dropped session.stop none
  /-- The session does not wait for the event. -/
  | unheard {session : Session} {event : Event} (quiet : session.reads event = [])
    (mute : session.writes event = []) (sound : session.breaks event = false) :
    Effect session event session none

theorem reads_of_not_isReading {session : Session} (deaf : session.isReading = false)
    (event : Event) : session.reads event = [] := by
  simp [reads, deaf]

/-- A read writes nothing, and it breaks nothing unless it fails. -/
theorem writes_of_call? (session : Session) {event : Event} {call : Connection.Call}
    (isRead : event.call? = some call) : session.writes event = [] := by
  cases event with
  | answered response => cases isRead
  | _ => rfl

theorem breaks_of_call? (session : Session) {event : Event} {call : Connection.Call}
    (isRead : event.call? = some call) (stays : event ≠ .readFailed) :
    session.breaks event = false := by
  cases event with
  | chunk chunk => rfl
  | endOfStream => rfl
  | readFailed => exact absurd rfl stays
  | _ => cases isRead

theorem reads_of_call?_eq_none (session : Session) {event : Event} (noRead : event.call? = none) :
    session.reads event = [] := by
  simp [reads, noRead]

/-- No request is assembled from nothing. -/
theorem assemble?_nil : Connection.assemble? [] = none := by decide +kernel

section

variable {connection : Connection} (output : Bytes)

/-! ## One event -/

/-- Data makes a session without a request gather more, or hand a request out. -/
theorem effect_reading_chunk (gathering : connection.IsGathering) (chunk : Bytes) :
    Effect ⟨connection, true, .reading, output⟩ (.chunk chunk)
      (step ⟨connection, true, .reading, output⟩ (.chunk chunk)).1
      (step ⟨connection, true, .reading, output⟩ (.chunk chunk)).2 := by
  cases assembled : Connection.assemble? (connection.buffer ++ chunk) with
  | none =>
    have made := gathering.onData_none assembled
    simp only [step, isReading, Phase.reads, received, made]
    exact .gathered made (.inr rfl) rfl
  | some request =>
    have made := gathering.onData_some assembled
    have some : connection.buffer ++ chunk ≠ [] := by
      intro nothing
      rw [nothing, assemble?_nil] at assembled
      cases assembled
    simp only [step, isReading, Phase.reads, received, made]
    exact .assembled rfl made rfl rfl some Event.noConfusion

/-- What is gathered when the client ends is a request; if nothing is, the session has ended. -/
theorem effect_reading_endOfStream (gathering : connection.IsGathering) :
    Effect ⟨connection, true, .reading, output⟩ .endOfStream
      (step ⟨connection, true, .reading, output⟩ .endOfStream).1
      (step ⟨connection, true, .reading, output⟩ .endOfStream).2 := by
  by_cases nothing : connection.buffer = []
  · have made := gathering.onPeerClosed_nil nothing
    have past : ¬ Connection.IsGathering ⟨connection.id, .closed, []⟩ := by
      simp [Connection.IsGathering]
    simp only [step, isReading, Phase.reads, received, made]
    exact .deserted nothing made past
  · have made := gathering.onPeerClosed nothing
    have kept : connection.buffer = connection.buffer ++ [] := by simp
    simp only [step, isReading, Phase.reads, received, made]
    exact .assembled rfl made rfl kept nothing Event.noConfusion

theorem effect_reading (gathering : connection.IsGathering) (event : Event) :
    Effect ⟨connection, true, .reading, output⟩ event
      (step ⟨connection, true, .reading, output⟩ event).1
      (step ⟨connection, true, .reading, output⟩ event).2 := by
  cases event with
  | chunk chunk => exact effect_reading_chunk output gathering chunk
  | endOfStream => exact effect_reading_endOfStream output gathering
  | readFailed => exact .readFailed rfl
  | dropped => exact .dropped rfl
  | _ => exact .unheard rfl rfl rfl

/-- While a request is in flight, what is read is of no account. -/
theorem effect_handling (processing : connection.state = .processing) (peerOpen : Bool)
    (request : InboundRequest) (event : Event) :
    Effect ⟨connection, peerOpen, .handling request, output⟩ event
      (step ⟨connection, peerOpen, .handling request, output⟩ event).1
      (step ⟨connection, peerOpen, .handling request, output⟩ event).2 := by
  cases event with
  | chunk chunk =>
    cases peerOpen with
    | false => exact .unheard rfl rfl rfl
    | true =>
      have made := Connection.onData_processing processing chunk
      simp only [step, isReading, Phase.reads, received, made]
      exact .overheard rfl made rfl Event.noConfusion
  | endOfStream =>
    cases peerOpen with
    | false => exact .unheard rfl rfl rfl
    | true =>
      have made := Connection.onPeerClosed_processing processing
      have busy : connection.isBusy = true := by
        simp [Connection.isBusy, processing, ConnectionState.isBusy]
      simp only [step, isReading, Phase.reads, received, made, busy]
      exact .overheard rfl made processing Event.noConfusion
  | readFailed =>
    cases peerOpen with
    | false => exact .unheard rfl rfl rfl
    | true => exact .readFailed rfl
  | answered response => exact .answered
  | crashed => exact .crashed
  | dropped => exact .dropped rfl
  | _ => exact .unheard (reads_of_call?_eq_none _ rfl) rfl rfl

end

/-- Once a request is answered nothing is read any more. -/
theorem effect_writing (connection : Connection) (peerOpen : Bool) (response : Response)
    (left output : Bytes) (event : Event) :
    Effect ⟨connection, peerOpen, .writing response left, output⟩ event
      (step ⟨connection, peerOpen, .writing response left, output⟩ event).1
      (step ⟨connection, peerOpen, .writing response left, output⟩ event).2 := by
  have deaf : isReading ⟨connection, peerOpen, .writing response left, output⟩ = false :=
    Bool.and_false peerOpen
  cases event with
  | wrote count => exact .wrote
  | finished =>
    cases left with
    | nil => exact .finished
    | cons b left => exact .unheard (reads_of_not_isReading deaf _) rfl rfl
  | writeFailed => exact .writeFailed
  | dropped => exact .dropped rfl
  | readFailed =>
    simp only [step, deaf]
    exact .unheard (reads_of_not_isReading deaf _) rfl deaf
  | chunk chunk =>
    simp only [step, deaf]
    exact .unheard (reads_of_not_isReading deaf _) rfl rfl
  | endOfStream =>
    simp only [step, deaf]
    exact .unheard (reads_of_not_isReading deaf _) rfl rfl
  | _ => exact .unheard (reads_of_not_isReading deaf _) rfl rfl

/-- Nothing happens to a session that has ended. -/
theorem step_of_ended {session : Session} (finished : session.ended = true) (event : Event) :
    session.step event = (session, none) := by
  obtain ⟨connection, peerOpen, phase, output⟩ := session
  cases phase with
  | ended response =>
    cases event <;> simp [step, isReading, Phase.reads, stop, Session.response, Phase.response]
  | _ => cases finished

theorem effect_ended {session : Session} (finished : session.ended = true) (event : Event) :
    Effect session event (session.step event).1 (session.step event).2 := by
  rw [step_of_ended finished]
  obtain ⟨connection, peerOpen, phase, output⟩ := session
  cases phase with
  | ended response =>
    have deaf : isReading ⟨connection, peerOpen, .ended response, output⟩ = false :=
      Bool.and_false peerOpen
    have quiet := reads_of_not_isReading deaf event
    cases event with
    | readFailed => exact .unheard quiet rfl deaf
    | writeFailed => exact .unheard quiet rfl (Bool.and_false _)
    | _ => exact .unheard quiet rfl rfl
  | _ => cases finished

/-- Every event of a session has one of these effects. -/
theorem effect_step {session : Session} (keeps : session.Keeps) (event : Event) :
    Effect session event (session.step event).1 (session.step event).2 := by
  obtain ⟨connection, peerOpen, phase, output⟩ := session
  cases phase with
  | reading =>
    obtain ⟨gathering, openPeer⟩ := keeps
    cases openPeer
    exact effect_reading output gathering event
  | handling request => exact effect_handling output keeps peerOpen request event
  | writing response left => exact effect_writing connection peerOpen response left output event
  | ended response => exact effect_ended rfl event

theorem keeps_fresh (id : UInt64) : (fresh id).Keeps := ⟨Connection.isGathering_fresh id, rfl⟩

/-- No request is in flight in a session that has ended. -/
theorem inFlight_of_ended {session : Session} (finished : session.ended = true) :
    session.inFlight = none := by
  obtain ⟨connection, peerOpen, phase, output⟩ := session
  cases phase with
  | ended response => rfl
  | _ => cases finished

theorem ended_of_inFlight {session : Session} {request : InboundRequest}
    (asked : session.inFlight = some request) : session.ended = false := by
  cases finished : session.ended with
  | false => rfl
  | true =>
    rw [inFlight_of_ended finished] at asked
    cases asked

section

variable {session next : Session} {event : Event} {request : Option InboundRequest}
  (effect : Effect session event next request)

include effect

/-- What the phase says of the connection stays so. -/
theorem Effect.keeps (keeps : session.Keeps) : next.Keeps := by
  cases effect with
  | gathered made gathering kept => exact ⟨gathering, rfl⟩
  | assembled reads made processing kept some stays => exact processing
  | overheard reads made processing stays => exact processing
  | unheard quiet mute sound => exact keeps
  | _ => trivial

/-- An event that a session learns of by itself ends it, or leaves its request in flight, or brings
a request that is in flight then. -/
theorem Effect.inFlight_cases (own : event.isOwn = true) :
    (request = none ∧ (next.ended = true ∨ next.inFlight = session.inFlight)) ∨
      session.inFlight = none ∧ ∃ made, request = some made ∧ next.inFlight = some made := by
  cases effect with
  | assembled reads made processing kept some stays => exact .inr ⟨rfl, _, rfl, rfl⟩
  | gathered made gathering kept => exact .inl ⟨rfl, .inr rfl⟩
  | overheard reads made processing stays => exact .inl ⟨rfl, .inr rfl⟩
  | wrote => exact .inl ⟨rfl, .inr rfl⟩
  | unheard quiet mute sound => exact .inl ⟨rfl, .inr rfl⟩
  | answered => cases own
  | crashed => cases own
  | _ => exact .inl ⟨rfl, .inl rfl⟩

end

end Session

end FrameCourier.Service
