import FrameCourier.Proofs.Service.Fragments
import FrameCourier.Proofs.Service.OneRequest

/-!
# What any calls make of a connection

The calls on a connection can come in any order, also in one that no session brings about.  What
one of them does is listed in `Effect`, one constructor for each way; everything that is said of
runs rests on that list.

A request is handed out exactly with the move to processing, no state comes back, and the buffer is
what was given to it as long as no read has failed.
-/

namespace FrameCourier.Service.Connection

open Wire

variable {connection : Connection}

/-! ## What a call does -/

/-- What a call does to a connection, and the request that it hands out. -/
inductive Effect (connection : Connection) : Call → Connection × Option InboundRequest → Prop
  /-- Data that completes nothing yet. -/
  | gathered {chunk : Bytes} (gathering : connection.IsGathering)
    (incomplete : assemble? (connection.buffer ++ chunk) = none) :
    Effect connection (.data chunk)
      (⟨connection.id, .accumulating, connection.buffer ++ chunk⟩, none)
  | assembled {chunk : Bytes} {request : InboundRequest} (gathering : connection.IsGathering)
    (complete : assemble? (connection.buffer ++ chunk) = some request) :
    Effect connection (.data chunk)
      (⟨connection.id, .processing, connection.buffer ++ chunk⟩, some request)
  /-- Data behind the request. -/
  | dropped {chunk : Bytes} (busy : connection.isBusy = true) :
    Effect connection (.data chunk)
      (⟨connection.id, connection.state, connection.buffer ++ chunk⟩, none)
  /-- The client ends, and what is gathered is an image. -/
  | fellBack (gathering : connection.IsGathering) (some : connection.buffer ≠ []) :
    Effect connection .peerClosed
      (⟨connection.id, .processing, connection.buffer⟩, .some (.raw connection.buffer))
  /-- The client ends without having sent anything. -/
  | deserted (gathering : connection.IsGathering) (nothing : connection.buffer = []) :
    Effect connection .peerClosed (⟨connection.id, .closed, connection.buffer⟩, none)
  | failed : Effect connection .readFailed (⟨connection.id, .closed, []⟩, none)
  | resolved (processing : connection.state = .processing) :
    Effect connection .detectorResolved (⟨connection.id, .responding, connection.buffer⟩, none)
  | written (responding : connection.state = .responding) :
    Effect connection .writeComplete (⟨connection.id, .closed, connection.buffer⟩, none)
  /-- A call without data that does not fit the state. -/
  | ignored {call : Call} (noData : ∀ chunk, call ≠ .data chunk) (noFailure : call ≠ .readFailed) :
    Effect connection call (connection, none)
  /-- Data for a closed connection. -/
  | late {chunk : Bytes} (closed : connection.state = .closed) :
    Effect connection (.data chunk) (connection, none)

/-- A connection gathers, or a request is in flight, or it is closed. -/
theorem isGathering_or_isBusy_or_closed (connection : Connection) :
    connection.IsGathering ∨ connection.isBusy = true ∨ connection.state = .closed := by
  cases state : connection.state <;> simp [IsGathering, isBusy, state, ConnectionState.isBusy]

/-- While a request is in flight, data is kept and changes nothing else. -/
theorem onData_of_isBusy (busy : connection.isBusy = true) (chunk : Bytes) :
    connection.onData chunk =
      (⟨connection.id, connection.state, connection.buffer ++ chunk⟩, none) := by
  obtain ⟨id, state, buffer⟩ := connection
  cases state with
  | processing => exact onData_processing rfl chunk
  | responding =>
    simp only [onData, transition, ConnectionState.next]
    cases assemble? (buffer ++ chunk) <;> simp [accept, isBusy, ConnectionState.isBusy]
  | _ => cases busy

theorem effect_onData (connection : Connection) (chunk : Bytes) :
    Effect connection (.data chunk) (connection.onData chunk) := by
  rcases connection.isGathering_or_isBusy_or_closed with gathering | busy | closed
  · cases complete : assemble? (connection.buffer ++ chunk) with
    | none =>
      rw [gathering.onData_none complete]
      exact .gathered gathering complete
    | some request =>
      rw [gathering.onData_some complete]
      exact .assembled gathering complete
  · rw [onData_of_isBusy busy]
    exact .dropped busy
  · have unchanged : connection.onData chunk = (connection, none) := by
      obtain ⟨id, state, buffer⟩ := connection
      cases closed
      rfl
    rw [unchanged]
    exact .late closed

theorem effect_onPeerClosed (connection : Connection) :
    Effect connection .peerClosed connection.onPeerClosed := by
  have ignored : Effect connection .peerClosed (connection, none) :=
    .ignored (fun chunk equal => by cases equal) (fun equal => by cases equal)
  rcases connection.isGathering_or_isBusy_or_closed with gathering | busy | closed
  · by_cases nothing : connection.buffer = []
    · have deserted := Effect.deserted gathering nothing
      rw [gathering.onPeerClosed_nil nothing]
      rwa [nothing] at deserted
    · rw [gathering.onPeerClosed nothing]
      exact .fellBack gathering nothing
  · have unchanged : connection.onPeerClosed = (connection, none) := by
      obtain ⟨id, state, buffer⟩ := connection
      cases state <;> cases busy <;> rfl
    rwa [unchanged]
  · have unchanged : connection.onPeerClosed = (connection, none) := by
      obtain ⟨id, state, buffer⟩ := connection
      cases closed
      cases buffer <;> rfl
    rwa [unchanged]

/-- Every call has one of these effects. -/
theorem effect_step (connection : Connection) (call : Call) :
    Effect connection call (connection.step call) := by
  cases call with
  | data chunk => exact effect_onData connection chunk
  | peerClosed => exact effect_onPeerClosed connection
  | readFailed =>
    have lost : connection.onReadFailed = ⟨connection.id, .closed, []⟩ := by
      simp [onReadFailed, transition, ConnectionState.next_failed]
    rw [step, lost]
    exact .failed
  | detectorResolved =>
    have ignored : Effect connection .detectorResolved (connection, none) :=
      .ignored (fun chunk equal => by cases equal) (fun equal => by cases equal)
    obtain ⟨id, state, buffer⟩ := connection
    cases state with
    | processing => exact .resolved rfl
    | _ => exact ignored
  | writeComplete =>
    have ignored : Effect connection .writeComplete (connection, none) :=
      .ignored (fun chunk equal => by cases equal) (fun equal => by cases equal)
    obtain ⟨id, state, buffer⟩ := connection
    cases state with
    | responding => exact .written rfl
    | _ => exact ignored

/-! ## What every call keeps to -/

section

variable {call : Call} {result : Connection × Option InboundRequest}

theorem rank_le_rank_closed (state : ConnectionState) :
    state.rank ≤ ConnectionState.closed.rank := by
  cases state <;> decide

/-- No state comes back. -/
theorem Effect.rank_le (effect : Effect connection call result) :
    connection.state.rank ≤ result.1.state.rank := by
  have early : connection.IsGathering → connection.state.rank ≤ 1 := isGathering_iff_rank.mp
  cases effect with
  | gathered gathering => exact early gathering
  | assembled gathering => exact Nat.le_succ_of_le (early gathering)
  | fellBack gathering => exact Nat.le_succ_of_le (early gathering)
  | deserted => exact rank_le_rank_closed connection.state
  | failed => exact rank_le_rank_closed connection.state
  | resolved processing =>
    rw [processing]
    exact (by decide : ConnectionState.processing.rank ≤ ConnectionState.responding.rank)
  | written => exact rank_le_rank_closed connection.state
  | dropped => exact Nat.le_refl _
  | ignored => exact Nat.le_refl _
  | late => exact Nat.le_refl _

/-- A request is handed out exactly with the move from gathering to processing. -/
theorem Effect.isSome_iff (effect : Effect connection call result) :
    result.2.isSome = true ↔ connection.IsGathering ∧ result.1.state = .processing := by
  cases effect with
  | gathered => simp
  | assembled gathering => simp [gathering]
  | fellBack gathering => simp [gathering]
  | deserted => simp
  | failed => simp
  | resolved => simp
  | written => simp
  | dropped busy =>
    have past : ¬ connection.IsGathering := fun gathering => by simp [gathering.isFree.1] at busy
    simp [past]
  | ignored =>
    refine iff_of_false Bool.false_ne_true fun ⟨gathering, processing⟩ => ?_
    rw [IsGathering, processing] at gathering
    simp at gathering
  | late closed => simp [closed]

/-- Nothing but a call that hands out a request begins to process. -/
theorem Effect.processing_of_none (effect : Effect connection call result)
    (nothing : result.2 = none) (processing : result.1.state = .processing) :
    connection.state = .processing := by
  cases effect with
  | dropped => exact processing
  | ignored => exact processing
  | late => exact processing
  | assembled => cases nothing
  | fellBack => cases nothing
  | _ => cases processing

/-- How a raw image stands in the data that completed it. -/
structure IsCutOff (image buffer : Bytes) : Prop where
  /-- The marker follows it, and anything may follow the marker. -/
  marked : ∃ rest, buffer = image ++ endMarker ++ rest
  /-- No marker starts earlier. -/
  first : ∀ offset < image.length, ¬ MarkerAt buffer offset

theorem isCutOff_of_assemble? {buffer image : Bytes}
    (assembled : assemble? buffer = some (.raw image)) : image ≠ [] ∧ IsCutOff image buffer := by
  obtain ⟨-, offset, found, notZero, rfl⟩ := assemble?_eq_raw_iff.mp assembled
  obtain ⟨stands, first⟩ := markerOffset?_eq_some_iff.mp found
  have inside : offset ≤ buffer.length := Nat.le_trans (Nat.le_add_right offset 17) stands.bound
  have length : (buffer.take offset).length = offset := List.length_take_of_le inside
  refine ⟨?_, ?_, ?_⟩
  · apply List.ne_nil_of_length_pos
    rw [length]
    exact Nat.pos_of_ne_zero notZero
  · obtain ⟨rest, follows⟩ := stands
    refine ⟨rest, ?_⟩
    rw [List.append_assoc, follows, List.take_append_drop]
  · rwa [length]

/-- A raw image is never empty; data that completes it brings its marker. -/
theorem Effect.raw {image : Bytes} (effect : Effect connection call result)
    (handedOut : result.2 = some (.raw image)) :
    image ≠ [] ∧ ∀ chunk, call = .data chunk → IsCutOff image result.1.buffer := by
  cases effect with
  | assembled gathering complete =>
    cases handedOut
    obtain ⟨notEmpty, cut⟩ := isCutOff_of_assemble? complete
    exact ⟨notEmpty, fun _ _ => cut⟩
  | fellBack gathering some =>
    cases handedOut
    exact ⟨some, fun chunk equal => by cases equal⟩
  | _ => cases handedOut

end

/-! ## What is given to a connection -/

/-- The bytes that a call gives to a connection; one that is closed takes none. -/
def given (connection : Connection) : Call → Bytes
  | .data chunk => if connection.state = .closed then [] else chunk
  | _ => []

/-- The bytes that calls give to a connection, in their order. -/
def allGiven (connection : Connection) : List Call → Bytes
  | [] => []
  | call :: rest => connection.given call ++ (connection.step call).1.allGiven rest

theorem given_of_ne_closed (notClosed : connection.state ≠ .closed) (chunk : Bytes) :
    connection.given (.data chunk) = chunk := if_neg notClosed

theorem given_of_closed (closed : connection.state = .closed) (call : Call) :
    connection.given call = [] := by
  cases call <;> simp [given, closed]

/-- A call appends what it gives, unless it is a failure to read. -/
theorem Effect.buffer_eq {call : Call} {result : Connection × Option InboundRequest}
    (effect : Effect connection call result) :
    result.1.buffer =
      if call = .readFailed then [] else connection.buffer ++ connection.given call := by
  have free : connection.IsGathering → connection.state ≠ .closed :=
    fun gathering => gathering.isFree.2
  cases effect with
  | gathered gathering => simp [given_of_ne_closed (free gathering)]
  | assembled gathering => simp [given_of_ne_closed (free gathering)]
  | dropped busy =>
    have notClosed : connection.state ≠ .closed := fun closed => by
      simp [isBusy, closed, ConnectionState.isBusy] at busy
    simp [given_of_ne_closed notClosed]
  | fellBack => simp [given]
  | deserted => simp [given]
  | failed => rfl
  | resolved => simp [given]
  | written => simp [given]
  | ignored noData noFailure =>
    rw [if_neg noFailure]
    cases call with
    | data chunk => exact absurd rfl (noData chunk)
    | _ => simp [given]
  | late closed => simp [given_of_closed closed]

/-! ## All calls -/

/-- The state never comes back over calls. -/
theorem rank_le_rank_after (connection : Connection) (calls : List Call) :
    connection.state.rank ≤ (connection.after calls).state.rank := by
  induction calls generalizing connection with
  | nil => exact Nat.le_refl _
  | cons call calls ih =>
    have first := (connection.effect_step call).rank_le
    exact Nat.le_trans first (ih (connection.step call).1)

/-- What is closed stays closed. -/
theorem after_of_closed (closed : connection.state = .closed) (calls : List Call) :
    (connection.after calls).state = .closed := by
  have last := connection.rank_le_rank_after calls
  rw [closed] at last
  cases state : (connection.after calls).state with
  | closed => rfl
  | _ =>
    rw [state] at last
    exact absurd last (by decide)

theorem allGiven_of_closed (closed : connection.state = .closed) (calls : List Call) :
    connection.allGiven calls = [] := by
  induction calls generalizing connection with
  | nil => rfl
  | cons call calls ih =>
    have still : (connection.step call).1.state = .closed := after_of_closed closed [call]
    rw [allGiven, given_of_closed closed, ih still]
    rfl

/-- The buffer is what was there and what was given, and nothing once a read has failed. -/
theorem buffer_after (connection : Connection) (calls : List Call) :
    (connection.after calls).buffer =
      if .readFailed ∈ calls then [] else connection.buffer ++ connection.allGiven calls := by
  induction calls generalizing connection with
  | nil => simp [after, allGiven]
  | cons call calls ih =>
    have first := (connection.effect_step call).buffer_eq
    have others := ih (connection.step call).1
    have unfolded : connection.after (call :: calls) = (connection.step call).1.after calls := rfl
    rw [unfolded, others, first]
    by_cases failed : call = .readFailed
    · subst failed
      -- A failure closes, so nothing is given after it.
      have closed : (connection.step .readFailed).1.state = .closed := by
        simp [step, onReadFailed, transition, ConnectionState.next_failed]
      simp [allGiven_of_closed closed]
    · have same : (.readFailed ∈ call :: calls) ↔ .readFailed ∈ calls := by
        simp [Ne.symm failed]
      simp only [same, if_neg failed, allGiven, List.append_assoc]

/-! ## The whole run -/

/-- What every call of a run keeps to. -/
structure IsOrderly (connection : Connection) (call : Call) : Prop where
  /-- A request is handed out exactly with the move from gathering to processing. -/
  handsOut : (connection.step call).2.isSome = true ↔
    connection.IsGathering ∧ (connection.step call).1.state = .processing
  /-- Nothing else begins to process. -/
  begins : connection.state ≠ .processing → (connection.step call).1.state = .processing →
    (connection.step call).2.isSome = true
  /-- A raw image is not empty. -/
  notEmpty : ∀ image, (connection.step call).2 = some (.raw image) → image ≠ []
  /-- If data completed it, its marker follows it in the buffer. -/
  isCutOff : ∀ chunk image, call = .data chunk →
    (connection.step call).2 = some (.raw image) → IsCutOff image (connection.step call).1.buffer

theorem isOrderly (connection : Connection) (call : Call) : connection.IsOrderly call := by
  have effect := connection.effect_step call
  constructor
  · exact effect.isSome_iff
  · intro notProcessing processing
    by_contra nothing
    rw [Bool.not_eq_true, Option.isSome_eq_false_iff, Option.isNone_iff_eq_none] at nothing
    exact notProcessing (effect.processing_of_none nothing processing)
  · intro image handedOut
    exact (effect.raw handedOut).1
  · intro chunk image isData handedOut
    exact (effect.raw handedOut).2 chunk isData

/-- Whatever the calls are and in whatever order they come: one request at most is handed out, and
every call is orderly; the state goes on from waiting over gathering, processing and responding to
closed and never comes back, and what is closed stays closed; as many bytes are buffered as were
given while the connection was not closed, and none any more once a read has failed. -/
theorem run_isOrderly (id : UInt64) (calls : List Call) :
    ((fresh id).requests calls).length ≤ 1 ∧
      (∀ call, ((fresh id).after calls).IsOrderly call) ∧
      (∀ more, ((fresh id).after calls).state.rank ≤ ((fresh id).after (calls ++ more)).state.rank ∧
        (((fresh id).after calls).state = .closed →
          ((fresh id).after (calls ++ more)).state = .closed)) ∧
      ((fresh id).after calls).buffered =
        if .readFailed ∈ calls then 0 else ((fresh id).allGiven calls).length := by
  refine ⟨(fresh id).length_requests_le_one calls, fun call => isOrderly _ call, fun more => ?_, ?_⟩
  · rw [after_append]
    exact ⟨rank_le_rank_after _ more, fun closed => after_of_closed closed more⟩
  · rw [buffered, buffer_after]
    split
    · rfl
    · simp [fresh]

/-- A raw image with its marker and a byte behind it, which is answered while one more byte comes. -/
def answeredCalls : List Call :=
  [.data ([0xFF] ++ endMarker ++ [1]), .data [2], .detectorResolved, .writeComplete]

/-- The image is handed out once; what comes after the answer is not buffered and opens nothing. -/
theorem run_isOrderly_answered :
    ((fresh 1).requests (answeredCalls ++ [.data [3]])).length ≤ 1 ∧
      ((fresh 1).after (answeredCalls ++ [.data [3]])).state = .closed ∧
      ((fresh 1).after (answeredCalls ++ [.data [3]])).buffered = endMarker.length + 3 := by
  obtain ⟨once, -, -, buffered⟩ := run_isOrderly 1 (answeredCalls ++ [.data [3]])
  obtain ⟨-, -, onward, -⟩ := run_isOrderly 1 answeredCalls
  exact ⟨once, (onward [.data [3]]).2 (by decide +kernel), buffered.trans (by decide +kernel)⟩

end FrameCourier.Service.Connection
