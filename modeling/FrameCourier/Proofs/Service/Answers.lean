import FrameCourier.Proofs.Service.Events

/-!
# What a session does in all

Whatever happens to a session and in whatever order, a request is in flight exactly while its
connection is processing, and one response is written at most.  A session that ends without being
cut short has written all of one if anything was received, and nothing otherwise.

What a session does is kept in a ledger beside it: the reads, the requests that they hand out, and
the responses that are written.  When between the request and its response the detector is called
the ledger does not say; on what, the handling of the request does.
-/

namespace FrameCourier.Service

open Wire

/-- The image that a request brings, if it brings one. -/
def InboundRequest.image? : InboundRequest → Option Bytes
  | .envelope request => (Base64.decode request.imageData).toOption
  | .raw image => some image
  | .invalid _ => none

/-- The detector is called on the image that a request brings, and on nothing else. -/
theorem calls_handle (codec : Picture.ImageCodec) (settings : DetectionSettings)
    (detector : Detector) (now : String) (request : InboundRequest) :
    (handle codec settings detector now request).calls = request.image?.toList := by
  cases request with
  | envelope request =>
    simp only [handle, plan, ImageRequest.image, decodePayload, InboundRequest.image?]
    cases Base64.decode request.imageData <;> rfl
  | raw image => rfl
  | invalid reason => rfl

namespace Session

/-! ## The ledger -/

/-- What a session has done. -/
structure Ledger where
  /-- The calls that it has made on its connection because it read. -/
  reads : List Connection.Call
  /-- The requests that were assembled and put to the handler. -/
  requests : List InboundRequest
  /-- The responses that it has begun to write. -/
  written : List Response
  /-- Whether it was cut short. -/
  broken : Bool

namespace Ledger

def empty : Ledger := ⟨[], [], [], false⟩

/-- The bytes that the reads have given. -/
def received (ledger : Ledger) : Bytes := ledger.reads.flatMap Connection.Call.bytes

/-- The images that the detector is called on when the requests are handled. -/
def calls (handle : InboundRequest → Handled) (ledger : Ledger) : List Bytes :=
  ledger.requests.flatMap fun request => (handle request).calls

end Ledger

/-- A session and its ledger after an event. -/
def advance (done : Session × Ledger) (event : Event) : Session × Ledger :=
  let (session, ledger) := done
  let (next, request) := session.step event
  (next, ⟨ledger.reads ++ session.reads event, ledger.requests ++ request.toList,
    ledger.written ++ session.writes event, ledger.broken || session.breaks event⟩)

/-- The session of a client and its ledger after events. -/
def course (id : UInt64) (events : List Event) : Session × Ledger :=
  events.foldl advance (fresh id, .empty)

/-- Without the ledger, a course is what the events make of the session. -/
theorem course_fst (id : UInt64) (events : List Event) :
    (course id events).1 = (fresh id).after events := by
  have forget : ∀ (done : Session × Ledger), (events.foldl advance done).1 = done.1.after events := by
    induction events with
    | nil => exact fun done => rfl
    | cons event events ih => exact fun done => ih (advance done event)
  exact forget (fresh id, .empty)

/-! ## How far a session is -/

/-- How far a session is, and what it has done by then. -/
inductive Stage (id : UInt64) : Session → Ledger → Prop where
  /-- All that was received is gathered, and it is no request yet. -/
  | reading {reads : List Connection.Call}
    (gathering : ((Connection.fresh id).after reads).IsGathering)
    (quiet : Connection.requestsOf reads = [])
    (kept : ((Connection.fresh id).after reads).buffer = reads.flatMap Connection.Call.bytes) :
    Stage id ⟨(Connection.fresh id).after reads, true, .reading, []⟩ ⟨reads, [], [], false⟩
  | handling {reads : List Connection.Call} {connection : Connection} {peerOpen : Bool}
    {request : InboundRequest} (processing : connection.state = .processing)
    (handedOut : Connection.requestsOf reads = [request])
    (some : reads.flatMap Connection.Call.bytes ≠ []) :
    Stage id ⟨connection, peerOpen, .handling request, []⟩ ⟨reads, [request], [], false⟩
  | writing {reads : List Connection.Call} {connection : Connection} {peerOpen : Bool}
    {request : InboundRequest} {response : Response} {output left : Bytes}
    (responding : connection.state = .responding)
    (handedOut : Connection.requestsOf reads = [request])
    (some : reads.flatMap Connection.Call.bytes ≠ [])
    (parts : output ++ left = response.toBytes) :
    Stage id ⟨connection, peerOpen, .writing response left, output⟩
      ⟨reads, [request], [response], false⟩
  /-- The client has ended without having sent anything. -/
  | deserted {reads : List Connection.Call} {connection : Connection} {peerOpen : Bool}
    (quiet : Connection.requestsOf reads = [])
    (nothing : reads.flatMap Connection.Call.bytes = []) :
    Stage id ⟨connection, peerOpen, .ended none, []⟩ ⟨reads, [], [], false⟩
  | served {reads : List Connection.Call} {connection : Connection} {peerOpen : Bool}
    {request : InboundRequest} {response : Response}
    (handedOut : Connection.requestsOf reads = [request])
    (some : reads.flatMap Connection.Call.bytes ≠ []) :
    Stage id ⟨connection, peerOpen, .ended (.some response), response.toBytes⟩
      ⟨reads, [request], [response], false⟩
  /-- The session was cut short before it wrote anything. -/
  | silenced {reads : List Connection.Call} {connection : Connection} {peerOpen : Bool}
    {requests : List InboundRequest} (handedOut : Connection.requestsOf reads = requests) :
    Stage id ⟨connection, peerOpen, .ended none, []⟩ ⟨reads, requests, [], true⟩
  /-- The session was cut short while it wrote. -/
  | interrupted {reads : List Connection.Call} {connection : Connection} {peerOpen : Bool}
    {request : InboundRequest} {response : Response} {output left : Bytes}
    (handedOut : Connection.requestsOf reads = [request])
    (parts : output ++ left = response.toBytes) :
    Stage id ⟨connection, peerOpen, .ended (.some response), output⟩
      ⟨reads, [request], [response], true⟩

theorem stage_fresh (id : UInt64) : Stage id (fresh id) .empty := by
  have gathering : ((Connection.fresh id).after []).IsGathering := Connection.isGathering_fresh id
  exact .reading gathering rfl rfl

variable {id : UInt64} {session : Session} {ledger : Ledger}

theorem Stage.keeps (stage : Stage id session ledger) : session.Keeps := by
  cases stage with
  | reading gathering quiet kept => exact ⟨gathering, rfl⟩
  | handling processing handedOut some => exact processing
  | _ => trivial

/-- Every effect of an event keeps a session and its ledger at some stage. -/
theorem Stage.of_effect {event : Event} {next : Session} {request : Option InboundRequest}
    (stage : Stage id session ledger) (effect : Effect session event next request) :
    Stage id next ⟨ledger.reads ++ session.reads event, ledger.requests ++ request.toList,
      ledger.written ++ session.writes event, ledger.broken || session.breaks event⟩ := by
  cases effect with
  | gathered made gathering kept =>
    cases stage with
    | reading before quiet buffered =>
      obtain ⟨rfl, handedOut⟩ := Connection.of_step made
      rw [quiet] at handedOut
      refine .reading gathering handedOut ?_
      rw [kept, buffered, List.flatMap_append]
      simp [Connection.Call.bytes]
  | assembled isRead made processing kept some stays =>
    cases stage with
    | reading before quiet buffered =>
      have handedOut := (Connection.of_step made).2
      rw [quiet] at handedOut
      rw [kept, buffered] at some
      rw [writes_of_call? _ isRead, breaks_of_call? _ isRead stays]
      simp only [Session.reads, isReading, Phase.reads, isRead]
      exact .handling processing handedOut (by simpa using some)
  | deserted nothing made past =>
    cases stage with
    | reading before quiet buffered =>
      have handedOut := (Connection.of_step made).2
      rw [quiet] at handedOut
      rw [nothing] at buffered
      refine .deserted handedOut ?_
      rw [List.flatMap_append, ← buffered]
      rfl
  | overheard isRead made processing stays =>
    cases stage with
    | handling before handedOut some =>
      rw [writes_of_call? _ isRead, breaks_of_call? _ isRead stays]
      refine .handling processing (Connection.requests_append_of_eq_singleton handedOut _) ?_
      simp [some]
  | readFailed waits =>
    cases stage with
    | @reading reads before quiet buffered =>
      have handedOut := Connection.requestsOf_append_singleton id reads .readFailed
      rw [quiet] at handedOut
      exact .silenced handedOut
    | handling processing handedOut some =>
      exact .silenced (Connection.requests_append_of_eq_singleton handedOut _)
    | _ => cases waits
  | answered =>
    cases stage with
    | handling processing handedOut some =>
      refine .writing ?_ (Connection.requests_append_of_eq_singleton handedOut _) ?_ rfl
      · simp [Connection.onDetectorResolved, Connection.transition, processing,
          ConnectionState.next]
      · simp [some]
  | crashed =>
    cases stage with
    | handling processing handedOut some =>
      exact .silenced (Connection.requests_append_of_eq_singleton handedOut _)
  | wrote =>
    cases stage with
    | writing responding handedOut some parts =>
      refine .writing responding (Connection.requests_append_of_eq_singleton handedOut _) ?_ ?_
      · simp [some]
      · rw [List.append_assoc, List.take_append_drop, parts]
  | finished =>
    cases stage with
    | writing responding handedOut some parts =>
      rw [List.append_nil] at parts
      rw [parts]
      refine .served (Connection.requests_append_of_eq_singleton handedOut _) ?_
      simp [some]
  | writeFailed =>
    cases stage with
    | writing responding handedOut some parts =>
      exact .interrupted (Connection.requests_append_of_eq_singleton handedOut _) parts
  | dropped running =>
    cases stage with
    | reading before quiet buffered =>
      rw [reads_of_call?_eq_none _ rfl, List.append_nil]
      exact .silenced quiet
    | handling processing handedOut some =>
      exact .silenced (Connection.requests_append_of_eq_singleton handedOut _)
    | writing responding handedOut some parts =>
      exact .interrupted (Connection.requests_append_of_eq_singleton handedOut _) parts
    | _ => cases running
  | unheard quiet mute sound => simpa [quiet, mute, sound] using stage

/-- Every event keeps a session and its ledger at some stage. -/
theorem Stage.advance (stage : Stage id session ledger) (event : Event) :
    Stage id (Session.advance (session, ledger) event).1
      (Session.advance (session, ledger) event).2 :=
  stage.of_effect (effect_step stage.keeps event)

theorem stage_course (id : UInt64) (events : List Event) :
    Stage id (course id events).1 (course id events).2 := by
  have keeps : ∀ (done : Session × Ledger), Stage id done.1 done.2 →
      Stage id (events.foldl Session.advance done).1 (events.foldl Session.advance done).2 := by
    induction events with
    | nil => exact fun done stage => stage
    | cons event events ih => exact fun done stage => ih _ (stage.advance event)
  exact keeps _ (stage_fresh id)

/-- All the bytes of the response that a session has. -/
def whole (session : Session) : Bytes :=
  match session.response with
  | some response => response.toBytes
  | none => []

/-! ## What follows at every stage -/

section

variable (stage : Stage id session ledger)

include stage

theorem Stage.inFlight_iff_processing (running : session.ended = false) :
    session.inFlight.isSome = true ↔ session.connection.state = .processing := by
  cases stage with
  | reading gathering quiet kept => rcases gathering with state | state <;> simp [inFlight, state]
  | handling processing handedOut some => simp [inFlight, processing]
  | writing responding handedOut some parts => simp [inFlight, responding]
  | _ => cases running

/-- Until a request is answered, there is something that its session waits for. -/
theorem Stage.waits (running : session.ended = false) (unanswered : session.response = none)
    (closed : session.peerOpen = false) : session.inFlight.isSome = true := by
  cases stage with
  | reading gathering quiet kept => cases closed
  | handling processing handedOut some => rfl
  | writing responding handedOut some parts => cases unanswered
  | _ => cases running

/-- The requests are those that the reads hand out on a connection of their own. -/
theorem Stage.requests_eq : ledger.requests = Connection.requestsOf ledger.reads := by
  cases stage with
  | reading gathering quiet kept => exact quiet.symm
  | handling processing handedOut some => exact handedOut.symm
  | writing responding handedOut some parts => exact handedOut.symm
  | deserted quiet nothing => exact quiet.symm
  | served handedOut some => exact handedOut.symm
  | silenced handedOut => exact handedOut.symm
  | interrupted handedOut parts => exact handedOut.symm

theorem Stage.length_requests_le : ledger.requests.length ≤ 1 := by
  rw [stage.requests_eq]
  exact Connection.length_requests_le_one _ _

/-- What was written is the response that the session has. -/
theorem Stage.written_eq : ledger.written = session.response.toList := by
  cases stage <;> rfl

theorem Stage.length_written_le : ledger.written.length ≤ 1 := by
  rw [stage.written_eq]
  cases session.response <;> simp

/-- What the client has is a part of the response, from its start on. -/
theorem Stage.output_isPrefix : session.output <+: session.whole := by
  cases stage with
  | writing responding handedOut some parts => exact ⟨_, parts⟩
  | interrupted handedOut parts => exact ⟨_, parts⟩
  | served handedOut some => exact List.prefix_refl _
  | _ => exact List.prefix_refl []

/-- A session that ends without being cut short has written all of its response. -/
theorem Stage.output_eq (ended : session.ended = true) (sound : ledger.broken = false) :
    session.output = session.whole ∧
      ledger.written.length = if ledger.received = [] then 0 else 1 := by
  cases stage with
  | deserted quiet nothing => exact ⟨rfl, by simp [Ledger.received, nothing]⟩
  | served handedOut some => exact ⟨rfl, by simp [Ledger.received, some]⟩
  | silenced handedOut => cases sound
  | interrupted handedOut parts => cases sound
  | _ => cases ended

/-- The detector is called once at most, whatever handles the requests. -/
theorem Stage.length_calls_le (codec : Picture.ImageCodec) (settings : DetectionSettings)
    (detector : Detector) (now : String) :
    (ledger.calls (handle codec settings detector now)).length ≤ 1 := by
  have few := stage.length_requests_le
  unfold Ledger.calls
  cases requests : ledger.requests with
  | nil => exact Nat.zero_le 1
  | cons request others =>
    have last : others = [] := by simpa [requests] using few
    rw [last, List.flatMap_singleton, calls_handle]
    cases request.image? <;> simp

/-- The only request is the one that the detector is called for. -/
theorem Stage.calls_eq {request : InboundRequest} (member : request ∈ ledger.requests)
    (handle : InboundRequest → Handled) : ledger.calls handle = (handle request).calls := by
  have only : ledger.requests = [request] := by
    obtain ⟨single, equal⟩ := List.length_eq_one_iff.mp
      (Nat.le_antisymm stage.length_requests_le (List.length_pos_of_mem member))
    rw [equal] at member ⊢
    rw [List.mem_singleton.mp member]
  rw [Ledger.calls, only, List.flatMap_singleton]

end

/-- In whatever order a client is read from, ends, fails, is answered and written to: while its
session runs, a request is in flight exactly if the connection is processing, and once the client
has ended one is until it is answered; the requests are what the reads hand out on a connection of
their own.  At most one response is written, from its start on, and by the end of a session that
was not cut short just one and all of it if anything was received, and none otherwise.  The detector
is called once at most, on the image that the one request brings, and what comes of the request
depends on the detector nowhere else. -/
theorem course_answers_once (id : UInt64) (events : List Event) :
    let session := (course id events).1
    let ledger := (course id events).2
    (session.ended = false →
      (session.inFlight.isSome = true ↔ session.connection.state = .processing) ∧
      (session.peerOpen = false → session.response = none → session.inFlight.isSome = true)) ∧
    ledger.requests = (Connection.fresh id).requests ledger.reads ∧ ledger.requests.length ≤ 1 ∧
    ledger.written = session.response.toList ∧ ledger.written.length ≤ 1 ∧
    session.output <+: session.whole ∧
    (session.ended = true → ledger.broken = false →
      session.output = session.whole ∧
        ledger.written.length = if ledger.received = [] then 0 else 1) ∧
    ∀ codec settings detector now,
      (ledger.calls (handle codec settings detector now)).length ≤ 1 ∧
      ∀ request ∈ ledger.requests,
        ledger.calls (handle codec settings detector now) = request.image?.toList ∧
        ∀ other, (∀ image ∈ ledger.calls (handle codec settings detector now),
            detector image = other image) →
          handle codec settings detector now request =
            handle codec settings other now request := by
  intro session ledger
  have stage : Stage id session ledger := stage_course id events
  refine ⟨fun running => ⟨stage.inFlight_iff_processing running, ?_⟩, ?_, stage.length_requests_le,
    stage.written_eq, stage.length_written_le, stage.output_isPrefix, stage.output_eq,
    fun codec settings detector now => ⟨stage.length_calls_le codec settings detector now, ?_⟩⟩
  · exact fun closed unanswered => stage.waits running unanswered closed
  · rw [Connection.requests_fresh]
    exact stage.requests_eq
  · intro request member
    rw [stage.calls_eq member]
    exact ⟨calls_handle codec settings detector now request, fun other same => handle_congr same⟩

/-- An image of one byte, its client's end, and a response that is written in two parts. -/
def oneByteEvents (response : Response) : List Event :=
  [.chunk [0xFF], .endOfStream, .answered response, .wrote 7, .wrote response.toBytes.length,
    .finished]

/-- The image is answered once, and the detector called once on it. -/
theorem course_answers_once_oneByte :
    let response := Response.ofError "nothing found" "then"
    (course 1 (oneByteEvents response)).1.output = response.toBytes ∧
      (course 1 (oneByteEvents response)).2.written = [response] ∧
      (course 1 (oneByteEvents response)).2.calls (handle (.pixmaps fun _ _ => []) .default
        (fun _ => .ok []) "then") = [[0xFF]] := by
  intro response
  obtain ⟨-, -, -, written, -, -, finished, calls⟩ := course_answers_once 1 (oneByteEvents response)
  have ended : (course 1 (oneByteEvents response)).1.ended = true := by decide +kernel
  have sound : (course 1 (oneByteEvents response)).2.broken = false := by decide +kernel
  have kept : (course 1 (oneByteEvents response)).1.response = some response := by decide +kernel
  have asked : (course 1 (oneByteEvents response)).2.requests = [.raw [0xFF]] := by decide +kernel
  refine ⟨?_, ?_, ?_⟩
  · rw [(finished ended sound).1, whole, kept]
  · rw [written, kept]
    rfl
  · exact ((calls _ _ _ _).2 (.raw [0xFF]) (by simp [asked])).1

end Session

end FrameCourier.Service
