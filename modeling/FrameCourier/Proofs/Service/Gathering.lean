import FrameCourier.Service.Connection

/-!
# How a connection gathers

As long as the bytes that have arrived are no request, a connection keeps all of them and hands
nothing out.  The call with which they become one hands it out, and no call with data does after
that.
-/

namespace FrameCourier.Service

open Wire

namespace Connection

/-- A connection to which a request can still come. -/
def IsGathering (connection : Connection) : Prop :=
  connection.state = .awaiting ∨ connection.state = .accumulating

/-- What a caller sees of a call: the state after it and the request handed out. -/
def outcome (result : Connection × Option InboundRequest) :
    ConnectionState × Option InboundRequest :=
  (result.1.state, result.2)

variable {connection : Connection}

theorem isGathering_fresh (id : UInt64) : (fresh id).IsGathering := .inl rfl

theorem isGathering_accumulating (id : UInt64) (buffer : Bytes) :
    IsGathering ⟨id, .accumulating, buffer⟩ := .inr rfl

/-! ## One call -/

section

variable (gathering : connection.IsGathering)

include gathering

theorem IsGathering.next_dataReceived : connection.state.next .dataReceived = .accumulating := by
  rcases gathering with state | state <;> simp [state, ConnectionState.next]

theorem IsGathering.next_requestAssembled :
    connection.state.next .requestAssembled = .processing := by
  rcases gathering with state | state <;> simp [state, ConnectionState.next]

/-- No request is in flight, and the connection is not closed. -/
theorem IsGathering.isFree : connection.isBusy = false ∧ connection.state ≠ .closed := by
  rcases gathering with state | state <;> simp [isBusy, state, ConnectionState.isBusy]

theorem IsGathering.accept_eq (request : InboundRequest) :
    connection.accept request =
      (⟨connection.id, .processing, connection.buffer⟩, some request) := by
  obtain ⟨notBusy, notClosed⟩ := gathering.isFree
  simp [accept, notBusy, notClosed, transition, gathering.next_requestAssembled]

/-- Data that completes nothing is kept. -/
theorem IsGathering.onData_none {chunk : Bytes}
    (incomplete : assemble? (connection.buffer ++ chunk) = none) :
    connection.onData chunk =
      (⟨connection.id, .accumulating, connection.buffer ++ chunk⟩, none) := by
  simp [onData, transition, gathering.next_dataReceived, incomplete]

theorem IsGathering.onData_some {chunk : Bytes} {request : InboundRequest}
    (complete : assemble? (connection.buffer ++ chunk) = some request) :
    connection.onData chunk =
      (⟨connection.id, .processing, connection.buffer ++ chunk⟩, some request) := by
  have accepted := (isGathering_accumulating connection.id (connection.buffer ++ chunk)).accept_eq
    request
  simp [onData, transition, gathering.next_dataReceived, complete, accepted]

theorem IsGathering.onData_snd (chunk : Bytes) :
    (connection.onData chunk).2 = assemble? (connection.buffer ++ chunk) := by
  cases assembled : assemble? (connection.buffer ++ chunk) with
  | none => rw [gathering.onData_none assembled]
  | some request => rw [gathering.onData_some assembled]

/-- What is gathered when the client ends is handed out as an image. -/
theorem IsGathering.onPeerClosed (some : connection.buffer ≠ []) :
    connection.onPeerClosed =
      (⟨connection.id, .processing, connection.buffer⟩, .some (.raw connection.buffer)) := by
  obtain ⟨notBusy, notClosed⟩ := gathering.isFree
  have accepted := gathering.accept_eq (.raw connection.buffer)
  simp [Connection.onPeerClosed, notBusy, some, notClosed, accepted]

end

/-- While a request is in flight, data is kept and nothing is handed out. -/
theorem onData_processing (processing : connection.state = .processing) (chunk : Bytes) :
    connection.onData chunk =
      (⟨connection.id, .processing, connection.buffer ++ chunk⟩, none) := by
  obtain ⟨id, state, buffer⟩ := connection
  cases processing
  simp only [onData, transition, ConnectionState.next]
  cases assemble? (buffer ++ chunk) <;> simp [accept, isBusy, ConnectionState.isBusy]

theorem onPeerClosed_processing (processing : connection.state = .processing) :
    connection.onPeerClosed = (connection, none) := by
  obtain ⟨id, state, buffer⟩ := connection
  cases processing
  simp [onPeerClosed, isBusy, ConnectionState.isBusy, transition, ConnectionState.next]

/-! ## Runs -/

/-- The connection after several calls. -/
def after (connection : Connection) (calls : List Call) : Connection :=
  calls.foldl (fun done call => (done.step call).1) connection

theorem run_append (connection : Connection) (calls more : List Call) :
    connection.run (calls ++ more) =
      connection.run calls ++ (connection.after calls).run more := by
  induction calls generalizing connection with
  | nil => rfl
  | cons call calls ih =>
    simp only [List.cons_append, run, ih]
    rfl

theorem after_append (connection : Connection) (calls more : List Call) :
    connection.after (calls ++ more) = (connection.after calls).after more :=
  List.foldl_append

/-- The first of several chunks is taken in before the others. -/
theorem after_chunks_cons (connection : Connection) (chunk : Bytes) (chunks : List Bytes) :
    connection.after ((chunk :: chunks).map .data) =
      (connection.onData chunk).1.after (chunks.map .data) := rfl

theorem outcomes_chunks_cons (connection : Connection) (chunk : Bytes) (chunks : List Bytes) :
    (connection.run ((chunk :: chunks).map .data)).map outcome =
      outcome (connection.onData chunk) ::
        ((connection.onData chunk).1.run (chunks.map .data)).map outcome := rfl

/-- Chunks of which no number of the first ones is a request. -/
def Quiet (buffer : Bytes) (chunks : List Bytes) : Prop :=
  ∀ part, part <+: chunks → assemble? (buffer ++ part.flatten) = none

theorem Quiet.tail {buffer chunk : Bytes} {chunks : List Bytes}
    (quiet : Quiet buffer (chunk :: chunks)) : Quiet (buffer ++ chunk) chunks := by
  intro part initial
  have longer : chunk :: part <+: chunk :: chunks := List.cons_prefix_cons.mpr ⟨rfl, initial⟩
  simpa using quiet (chunk :: part) longer

theorem Quiet.head {buffer chunk : Bytes} {chunks : List Bytes}
    (quiet : Quiet buffer (chunk :: chunks)) : assemble? (buffer ++ chunk) = none := by
  have first : [chunk] <+: chunk :: chunks := ⟨chunks, rfl⟩
  simpa using quiet [chunk] first

/-- Quiet chunks are gathered. -/
theorem IsGathering.after_quiet (gathering : connection.IsGathering) {chunks : List Bytes}
    (quiet : Quiet connection.buffer chunks) :
    (connection.after (chunks.map .data)).IsGathering ∧
      (connection.after (chunks.map .data)).buffer = connection.buffer ++ chunks.flatten := by
  induction chunks generalizing connection with
  | nil => exact ⟨gathering, by simp [after]⟩
  | cons chunk chunks ih =>
    rw [after_chunks_cons, gathering.onData_none quiet.head]
    obtain ⟨stillGathering, gathered⟩ := ih (isGathering_accumulating _ _) quiet.tail
    refine ⟨stillGathering, ?_⟩
    rw [gathered, List.flatten_cons, List.append_assoc]

theorem IsGathering.run_quiet (gathering : connection.IsGathering) {chunks : List Bytes}
    (quiet : Quiet connection.buffer chunks) :
    (connection.run (chunks.map .data)).map outcome =
      List.replicate chunks.length (.accumulating, none) := by
  induction chunks generalizing connection with
  | nil => rfl
  | cons chunk chunks ih =>
    rw [outcomes_chunks_cons, gathering.onData_none quiet.head,
      ih (isGathering_accumulating _ _) quiet.tail]
    rfl

/-- While a request is in flight, no data brings another one. -/
theorem run_processing (processing : connection.state = .processing) (chunks : List Bytes) :
    (connection.run (chunks.map .data)).map outcome =
      List.replicate chunks.length (.processing, none) := by
  induction chunks generalizing connection with
  | nil => rfl
  | cons chunk chunks ih =>
    rw [outcomes_chunks_cons, onData_processing processing chunk, ih rfl]
    rfl

theorem after_processing (processing : connection.state = .processing) (chunks : List Bytes) :
    (connection.after (chunks.map .data)).state = .processing := by
  induction chunks generalizing connection with
  | nil => exact processing
  | cons chunk chunks ih =>
    rw [after_chunks_cons, onData_processing processing chunk]
    exact ih rfl

/-- The call after quiet chunks that completes a request is the one that hands it out. -/
theorem IsGathering.run_complete (gathering : connection.IsGathering) {before : List Bytes}
    (quiet : Quiet connection.buffer before) {last : Bytes} {request : InboundRequest}
    (complete : assemble? (connection.buffer ++ before.flatten ++ last) = some request)
    (behind : List Bytes) :
    (connection.run ((before ++ last :: behind).map .data)).map outcome =
      List.replicate before.length (.accumulating, none) ++
        (.processing, some request) :: List.replicate behind.length (.processing, none) := by
  obtain ⟨stillGathering, gathered⟩ := gathering.after_quiet quiet
  rw [← gathered] at complete
  rw [List.map_append, run_append, List.map_append, gathering.run_quiet quiet,
    outcomes_chunks_cons, stillGathering.onData_some complete, run_processing rfl]
  rfl

theorem IsGathering.after_complete (gathering : connection.IsGathering) {before : List Bytes}
    (quiet : Quiet connection.buffer before) {last : Bytes} {request : InboundRequest}
    (complete : assemble? (connection.buffer ++ before.flatten ++ last) = some request)
    (behind : List Bytes) :
    (connection.after ((before ++ last :: behind).map .data)).state = .processing := by
  obtain ⟨stillGathering, gathered⟩ := gathering.after_quiet quiet
  rw [← gathered] at complete
  rw [List.map_append, after_append, after_chunks_cons, stillGathering.onData_some complete]
  exact after_processing rfl behind

/-- Chunks either stay quiet or have a first call that completes a request. -/
theorem quiet_or_exists_complete {buffer : Bytes} (start : assemble? buffer = none)
    (chunks : List Bytes) :
    Quiet buffer chunks ∨
      ∃ before last behind request, chunks = before ++ last :: behind ∧ Quiet buffer before ∧
        assemble? (buffer ++ before.flatten ++ last) = some request := by
  induction chunks generalizing buffer with
  | nil =>
    refine .inl fun part initial => ?_
    rw [List.prefix_nil.mp initial, List.flatten_nil, List.append_nil]
    exact start
  | cons chunk chunks ih =>
    cases assembled : assemble? (buffer ++ chunk) with
    | some request =>
      refine .inr ⟨[], chunk, chunks, request, rfl, fun part initial => ?_, by simpa using assembled⟩
      rw [List.prefix_nil.mp initial, List.flatten_nil, List.append_nil]
      exact start
    | none =>
      have extend : ∀ {later : List Bytes}, Quiet (buffer ++ chunk) later →
          Quiet buffer (chunk :: later) := by
        intro later quiet part initial
        cases part with
        | nil => rwa [List.flatten_nil, List.append_nil]
        | cons first part =>
          obtain ⟨rfl, rest⟩ := List.cons_prefix_cons.mp initial
          rw [List.flatten_cons, ← List.append_assoc]
          exact quiet part rest
      rcases ih assembled with quiet | ⟨before, last, behind, request, rfl, quiet, complete⟩
      · exact .inl (extend quiet)
      · exact .inr ⟨chunk :: before, last, behind, request, rfl, extend quiet,
          by simpa using complete⟩

/-! ## Runs that end with the client -/

theorem requests_eq_filterMap_outcome (connection : Connection) (calls : List Call) :
    connection.requests calls = ((connection.run calls).map outcome).filterMap (·.2) := by
  simp [requests, outcome, List.filterMap_map, Function.comp_def]

theorem requests_append (connection : Connection) (calls more : List Call) :
    connection.requests (calls ++ more) =
      connection.requests calls ++ (connection.after calls).requests more := by
  simp [requests, run_append]

theorem requests_peerClosed (connection : Connection) :
    connection.requests [.peerClosed] = connection.onPeerClosed.2.toList := by
  cases request : connection.onPeerClosed.2 <;> simp [requests, run, step, request]

/-- A request that is complete is the only one. -/
theorem IsGathering.requests_complete (gathering : connection.IsGathering) {before : List Bytes}
    (quiet : Quiet connection.buffer before) {last : Bytes} {request : InboundRequest}
    (complete : assemble? (connection.buffer ++ before.flatten ++ last) = some request)
    (behind : List Bytes) :
    connection.requests ((before ++ last :: behind).map .data ++ [.peerClosed]) = [request] := by
  have closing := onPeerClosed_processing (gathering.after_complete quiet complete behind)
  rw [requests_append, requests_peerClosed, closing, requests_eq_filterMap_outcome,
    gathering.run_complete quiet complete behind]
  simp [List.filterMap_append]

/-- What never became a request is handed out as an image. -/
theorem IsGathering.requests_quiet (gathering : connection.IsGathering) {chunks : List Bytes}
    (quiet : Quiet connection.buffer chunks) (some : connection.buffer ++ chunks.flatten ≠ []) :
    connection.requests (chunks.map .data ++ [.peerClosed]) =
      [.raw (connection.buffer ++ chunks.flatten)] := by
  obtain ⟨stillGathering, gathered⟩ := gathering.after_quiet quiet
  have closing := stillGathering.onPeerClosed (gathered ▸ some)
  rw [requests_append, requests_peerClosed, closing, requests_eq_filterMap_outcome,
    gathering.run_quiet quiet, gathered]
  simp

end Connection

end FrameCourier.Service
