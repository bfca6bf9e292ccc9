import FrameCourier.Proofs.Service.Fragments
import FrameCourier.Proofs.Service.Events

/-!
# One request in one session

A session reads as its connection gathers.  With the last byte of a request it has the request
handled, writes the response and ends; it ends without a byte written if there is none.  Nothing
that comes after the end is looked at.
-/

namespace FrameCourier.Service

open Wire

namespace Session

open Connection

/-- A session that reads from a client and has no request yet. -/
def reading (connection : Connection) : Session := ⟨connection, true, .reading, []⟩

section

variable {connection : Connection} (handle : InboundRequest → Handled)

/-! ## One chunk -/

theorem step_reading_none {chunk : Bytes} {next : Connection}
    (nothing : connection.onData chunk = (next, none)) :
    (reading connection).step (.chunk chunk) = (reading next, none) := by
  simp [step, reading, isReading, Phase.reads, received, nothing]

/-- A session with a request in flight. -/
def answering (connection : Connection) (request : InboundRequest) : Session :=
  { reading connection with phase := .handling request }

theorem step_reading_some {chunk : Bytes} {next : Connection} {request : InboundRequest}
    (assembled : connection.onData chunk = (next, some request)) :
    (reading connection).step (.chunk chunk) = (answering next request, some request) := by
  simp [step, reading, isReading, Phase.reads, received, assembled, answering]

/-- A request that is handled ends its session with all of the response written. -/
theorem settle_answering (connection : Connection) (request : InboundRequest)
    (handled : Handled) :
    ((answering connection request).settle handled.response).ended = true ∧
      ((answering connection request).settle handled.response).output = handled.output := by
  obtain ⟨calls, response⟩ := handled
  cases response with
  | none => exact ⟨rfl, rfl⟩
  | some response =>
    simp [settle, after, step, answering, reading, answer, stop, ended, Handled.output]

theorem serve_of_ended {session : Session} (finished : session.ended = true)
    (events : List Event) : session.serve handle events = (session, []) := by
  induction events with
  | nil => rfl
  | cons event events ih =>
    simp only [serve, step_of_ended finished event]
    exact ih

/-! ## Runs -/

/-- Quiet chunks are gathered, and the session goes on reading. -/
theorem serve_quiet (gathering : connection.IsGathering) {chunks : List Bytes}
    (quiet : Quiet connection.buffer chunks) (more : List Event) :
    (reading connection).serve handle (chunks.map .chunk ++ more) =
      (reading (connection.after (chunks.map .data))).serve handle more := by
  induction chunks generalizing connection with
  | nil => rfl
  | cons chunk chunks ih =>
    have gathered := gathering.onData_none quiet.head
    have goesOn := ih (isGathering_accumulating connection.id _) quiet.tail
    rw [after_chunks_cons, gathered]
    simp only [List.map_cons, List.cons_append, serve, step_reading_none gathered]
    exact goesOn

/-- The chunk that completes a request has it handled, and the session has ended then. -/
theorem serve_complete (gathering : connection.IsGathering) {before : List Bytes}
    (quiet : Quiet connection.buffer before) {last : Bytes} {request : InboundRequest}
    (complete : assemble? (connection.buffer ++ before.flatten ++ last) = some request)
    (behind : List Bytes) :
    ((reading connection).serve handle ((before ++ last :: behind).map .chunk)).1.output =
        (handle request).output ∧
      ((reading connection).serve handle ((before ++ last :: behind).map .chunk)).2 =
        (handle request).calls := by
  obtain ⟨stillGathering, gathered⟩ := gathering.after_quiet quiet
  rw [← gathered] at complete
  have assembled := stillGathering.onData_some complete
  have events : (before ++ last :: behind).map Event.chunk =
      before.map .chunk ++ .chunk last :: behind.map .chunk := by
    simp
  obtain ⟨settled, written⟩ := settle_answering ⟨(connection.after (before.map .data)).id,
    .processing, (connection.after (before.map .data)).buffer ++ last⟩ request (handle request)
  rw [events, serve_quiet handle gathering quiet]
  simp only [serve, step_reading_some assembled, serve_of_ended handle settled, written,
    List.append_nil, and_self]

end

/-- A request in pieces is the only one that its session has handled, and its response is what the
client receives. -/
theorem serve_request (handle : InboundRequest → Handled) (request : ImageRequest) (id : UInt64)
    {pieces : List Bytes} (cut : pieces.flatten = request.toBytes) :
    ((fresh id).serve handle (pieces.map .chunk)).1.output = (handle (.envelope request)).output ∧
      ((fresh id).serve handle (pieces.map .chunk)).2 = (handle (.envelope request)).calls := by
  obtain ⟨before, last, behind, rfl, -, -, quiet, complete⟩ :=
    (completesLast_request request).exists_complete cut
  exact serve_complete handle (isGathering_fresh id) quiet complete behind

end Session

end FrameCourier.Service
