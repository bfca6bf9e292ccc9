import FrameCourier.Proofs.Service.Gathering

/-!
# One request at most

A connection hands out a request only when it stops gathering, and what has stopped does not begin
again.  So whatever the calls are, they hand out one request at most, and the calls after it change
nothing about that.
-/

namespace FrameCourier.Service.Connection

variable {connection : Connection}

theorem isGathering_iff_rank : connection.IsGathering ↔ connection.state.rank ≤ 1 := by
  cases state : connection.state <;> simp [IsGathering, state, ConnectionState.rank]

/-- No event makes a connection gather again. -/
theorem isGathering_of_transition {event : ConnectionEvent}
    (gathering : (connection.transition event).IsGathering) : connection.IsGathering := by
  rw [isGathering_iff_rank] at gathering ⊢
  exact Nat.le_trans (ConnectionState.rank_le_rank_next connection.state event) gathering

/-- Only a connection that gathers accepts a request. -/
theorem accept_of_not_isGathering (past : ¬ connection.IsGathering) (request : InboundRequest) :
    connection.accept request = (connection, none) := by
  have refused : (connection.isBusy || connection.state = .closed) = true := by
    cases state : connection.state <;>
      simp [IsGathering, state] at past <;> simp [isBusy, state, ConnectionState.isBusy]
  simp [accept, refused]

/-- What does not gather hands nothing out, and does not gather afterwards. -/
theorem step_of_not_isGathering (past : ¬ connection.IsGathering) (call : Call) :
    (connection.step call).2 = none ∧ ¬ (connection.step call).1.IsGathering := by
  have stays : ∀ event, ¬ (connection.transition event).IsGathering :=
    fun event gathering => past (isGathering_of_transition gathering)
  cases call with
  | data chunk =>
    have grownStays : ¬ IsGathering { connection.transition .dataReceived with
        buffer := (connection.transition .dataReceived).buffer ++ chunk } := stays .dataReceived
    simp only [step, onData]
    split
    · exact ⟨rfl, stays .dataReceived⟩
    · split
      · exact ⟨rfl, grownStays⟩
      · rw [accept_of_not_isGathering grownStays]
        exact ⟨rfl, grownStays⟩
  | peerClosed =>
    simp only [step, onPeerClosed]
    split
    · exact ⟨rfl, stays .closedByPeer⟩
    · split
      · exact ⟨rfl, past⟩
      · rw [accept_of_not_isGathering past]
        exact ⟨rfl, past⟩
  | readFailed =>
    refine ⟨rfl, fun gathering => ?_⟩
    rw [isGathering_iff_rank] at gathering
    simp [step, onReadFailed, transition, ConnectionState.next_failed, ConnectionState.rank]
      at gathering
  | detectorResolved => exact ⟨rfl, stays .detectorResolved⟩
  | writeComplete => exact ⟨rfl, stays .writeComplete⟩

/-- A client that ends without having sent anything closes its connection. -/
theorem IsGathering.onPeerClosed_nil (gathering : connection.IsGathering)
    (nothing : connection.buffer = []) :
    connection.onPeerClosed = (⟨connection.id, .closed, []⟩, none) := by
  obtain ⟨id, state, buffer⟩ := connection
  cases nothing
  rcases gathering with state | state <;> cases state <;> rfl

/-- What gathers hands a request out and processes it then, or it hands nothing out. -/
theorem IsGathering.step_snd (gathering : connection.IsGathering) (call : Call) :
    (connection.step call).2 = none ∨
      ∃ request, (connection.step call).2 = some request ∧
        (connection.step call).1.state = .processing := by
  cases call with
  | data chunk =>
    cases assembled : assemble? (connection.buffer ++ chunk) with
    | none => exact .inl (by rw [step, gathering.onData_none assembled])
    | some request =>
      refine .inr ⟨request, ?_⟩
      simp [step, gathering.onData_some assembled]
  | peerClosed =>
    by_cases nothing : connection.buffer = []
    · exact .inl (by rw [step, gathering.onPeerClosed_nil nothing])
    · refine .inr ⟨.raw connection.buffer, ?_⟩
      simp [step, gathering.onPeerClosed nothing]
  | readFailed => exact .inl rfl
  | detectorResolved => exact .inl rfl
  | writeComplete => exact .inl rfl

/-! ## All calls -/

theorem requests_cons (connection : Connection) (call : Call) (calls : List Call) :
    connection.requests (call :: calls) =
      (connection.step call).2.toList ++ (connection.step call).1.requests calls := by
  cases request : (connection.step call).2 <;> simp [requests, run, request]

theorem requests_of_not_isGathering (past : ¬ connection.IsGathering) (calls : List Call) :
    connection.requests calls = [] := by
  induction calls generalizing connection with
  | nil => rfl
  | cons call calls ih =>
    obtain ⟨nothing, still⟩ := step_of_not_isGathering past call
    rw [requests_cons, nothing, ih still]
    rfl

/-- Calls hand out one request at most. -/
theorem length_requests_le_one (connection : Connection) (calls : List Call) :
    (connection.requests calls).length ≤ 1 := by
  induction calls generalizing connection with
  | nil => exact Nat.zero_le 1
  | cons call calls ih =>
    rw [requests_cons]
    by_cases gathering : connection.IsGathering
    · rcases gathering.step_snd call with nothing | ⟨request, some, processing⟩
      · simpa [nothing] using ih (connection.step call).1
      · have past : ¬ (connection.step call).1.IsGathering := by simp [IsGathering, processing]
        simp [some, requests_of_not_isGathering past]
    · obtain ⟨nothing, still⟩ := step_of_not_isGathering gathering call
      simp [nothing, requests_of_not_isGathering still]

/-- A request that was handed out stays the only one. -/
theorem requests_append_of_eq_singleton {calls : List Call} {request : InboundRequest}
    (handedOut : connection.requests calls = [request]) (more : List Call) :
    connection.requests (calls ++ more) = [request] := by
  have few := connection.length_requests_le_one (calls ++ more)
  rw [requests_append, handedOut] at few ⊢
  rw [List.length_append, List.length_singleton] at few
  have nothing : (connection.after calls).requests more = [] :=
    List.length_eq_zero_iff.mp (by omega)
  rw [nothing, List.append_nil]

/-! ## The number of a connection -/

/-- The connection with another number. -/
def withId (id : UInt64) (connection : Connection) : Connection := { connection with id := id }

/-- Nothing that a connection does depends on its number. -/
theorem step_withId (id : UInt64) (connection : Connection) (call : Call) :
    (connection.withId id).step call =
      ((connection.step call).1.withId id, (connection.step call).2) := by
  obtain ⟨old, state, buffer⟩ := connection
  cases call with
  | data chunk =>
    cases assembled : assemble? (buffer ++ chunk) <;> cases state <;>
      simp [step, onData, accept, withId, transition, ConnectionState.next, isBusy,
        ConnectionState.isBusy, assembled]
  | peerClosed => cases state <;> cases buffer <;> rfl
  | readFailed => rfl
  | detectorResolved => rfl
  | writeComplete => rfl

theorem requests_withId (id : UInt64) (connection : Connection) (calls : List Call) :
    (connection.withId id).requests calls = connection.requests calls := by
  induction calls generalizing connection with
  | nil => rfl
  | cons call calls ih => rw [requests_cons, requests_cons, step_withId, ih]

/-- The requests that calls hand out on a connection of their own. -/
def requestsOf (calls : List Call) : List InboundRequest := (fresh 1).requests calls

/-- All fresh connections hand out the same. -/
theorem requests_fresh (id : UInt64) (calls : List Call) :
    (fresh id).requests calls = requestsOf calls :=
  requests_withId id (fresh 1) calls

theorem requestsOf_append_singleton (id : UInt64) (calls : List Call) (call : Call) :
    requestsOf (calls ++ [call]) =
      requestsOf calls ++ (((fresh id).after calls).step call).2.toList := by
  rw [← requests_fresh id, ← requests_fresh id, requests_append, requests_cons]
  simp [requests, run]

/-- One more call on a connection of their own. -/
theorem of_step {id : UInt64} {calls : List Call} {call : Call} {next : Connection}
    {request : Option InboundRequest}
    (made : ((fresh id).after calls).step call = (next, request)) :
    (fresh id).after (calls ++ [call]) = next ∧
      requestsOf (calls ++ [call]) = requestsOf calls ++ request.toList := by
  constructor
  · have last : ((fresh id).after calls).after [call] = next := congrArg Prod.fst made
    rw [after_append, last]
  · rw [requestsOf_append_singleton id, made]

theorem requestsOf_append_of_not_isGathering {id : UInt64} {calls : List Call}
    (past : ¬ ((fresh id).after calls).IsGathering) (more : List Call) :
    requestsOf (calls ++ more) = requestsOf calls := by
  rw [← requests_fresh id, ← requests_fresh id, requests_append,
    requests_of_not_isGathering past, List.append_nil]

end FrameCourier.Service.Connection
