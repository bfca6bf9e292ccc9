import FrameCourier.Proofs.Delivery
import FrameCourier.Proofs.Service.Standing

/-!
# Clients do not affect one another

The clients of a service share its permits and nothing else.  However their sessions, the steps of
their detections and the end of the service follow one another, what a client has received is a part,
from its start on, of the response to the one request that its own bytes make as they are read.  It
is all of it when the session has ended, unless the session was cut short; and it is nothing at all
only if there is no such request, or its detection is not over yet, or it has no response, or the
session was cut short.
-/

namespace FrameCourier

open Wire Picture

/-- The response as if it were made at another time. -/
def Wire.Response.stamped (now : String) : Response → Response
  | .success report => .success { report with timestamp := now }
  | .failure report => .failure { report with timestamp := now }

@[simp] theorem Wire.Response.timestamp_stamped (now : String) (response : Response) :
    (response.stamped now).timestamp = now := by
  cases response <;> rfl

namespace Service

/-- The time shows in the time of a response and nowhere else. -/
theorem respond_eq_stamped (codec : ImageCodec) (settings : DetectionSettings) (now later : String)
    (image : Bytes) (requestTimestamp : Option String)
    (answer : Except DetectorFault (List Detection)) :
    respond codec settings now image requestTimestamp answer =
      (respond codec settings later image requestTimestamp answer).map (.stamped now) := by
  cases answer with
  | error fault => rfl
  | ok detections =>
    rw [respond_ok, respond_ok]
    split <;> rfl

theorem handle_eq_stamped (codec : ImageCodec) (settings : DetectionSettings) (detector : Detector)
    (now later : String) (request : InboundRequest) :
    (handle codec settings detector now request).response =
      (handle codec settings detector later request).response.map (.stamped now) := by
  cases planned : plan request with
  | refuse message =>
    rw [handle_of_refuse planned, handle_of_refuse planned]
    rfl
  | detect image requestTimestamp =>
    rw [handle_of_detect planned, handle_of_detect planned]
    exact respond_eq_stamped codec settings now later image requestTimestamp (detector image)

/-! ## What a client does -/

/-- What happens to the session of a client from the client's side. -/
def ServerEvent.own? (client : Nat) : ServerEvent → Option Session.Event
  | .session other event => if other = client then some event else none
  | _ => none

/-- What has happened to the session of a client from the client's side. -/
def ownEvents (client : Nat) (events : List ServerEvent) : List Session.Event :=
  events.filterMap (ServerEvent.own? client)

/-- What a client has sent, and how it has ended. -/
def ownCalls (client : Nat) (events : List ServerEvent) : List Connection.Call :=
  (ownEvents client events).filterMap Session.Event.call?

/-- Whether the session of a client was cut short. -/
def isLost (client : Nat) (events : List ServerEvent) : Bool :=
  (ownEvents client events).any Session.Event.isLoss

theorem ownEvents_append_of_none {client : Nat} {event : ServerEvent}
    (foreign : event.own? client = none) (events : List ServerEvent) :
    ownEvents client (events ++ [event]) = ownEvents client events := by
  simp [ownEvents, foreign]

theorem ServerEvent.own?_eq_none {client : Nat} {event : ServerEvent}
    (apart : event.client? ≠ some client) : event.own? client = none := by
  cases event with
  | session other event =>
    have different : other ≠ client := fun same => apart (same ▸ rfl)
    simp [own?, different]
  | _ => rfl

namespace Server

variable {codec : ImageCodec} {settings : DetectionSettings} {detector : Detector} {client : Nat}
  {calls : List Connection.Call} {lost : Bool} {tasks : List Task} {session : Session}
  {server : Server} {events : List ServerEvent} {event : ServerEvent}

/-! ## Runs -/

/-- What can have happened to a service, and its state then. -/
inductive Run (codec : ImageCodec) (settings : DetectionSettings) (detector : Detector) :
    List ServerEvent → Server → Prop where
  | start : Run codec settings detector [] (.start settings)
  | step {events : List ServerEvent} {server : Server} {event : ServerEvent} (now : String)
      (before : Run codec settings detector events server)
      (admitted : server.Admits detector event) :
      Run codec settings detector (events ++ [event]) (server.step codec now event).1

instance (detector : Detector) (server : Server) :
    (event : ServerEvent) → Decidable (server.Admits detector event)
  | .session client _ => inferInstanceAs (Decidable ((server.sessions client).isSome = true))
  | .detected client answer => inferInstanceAs (Decidable (∀ holder ∈ server.holding,
      holder.task.client = client → answer = detector holder.task.image))
  | .connected _ => isTrue trivial
  | .drawn _ => isTrue trivial
  | .released _ => isTrue trivial
  | .shutdown => isTrue trivial

/-- The state after several events at one time. -/
def after (codec : ImageCodec) (now : String) (server : Server) (events : List ServerEvent) :
    Server :=
  events.foldl (fun server event => (server.step codec now event).1) server

/-- Whether several events can happen one after the other. -/
def AdmitsAll (codec : ImageCodec) (detector : Detector) (now : String) :
    Server → List ServerEvent → Prop
  | _, [] => True
  | server, event :: later =>
    server.Admits detector event ∧
      AdmitsAll codec detector now (server.step codec now event).1 later

instance decidableAdmitsAll (codec : ImageCodec) (detector : Detector) (now : String) :
    (server : Server) → (later : List ServerEvent) →
      Decidable (AdmitsAll codec detector now server later)
  | _, [] => isTrue trivial
  | server, event :: later =>
    have := decidableAdmitsAll codec detector now (server.step codec now event).1 later
    inferInstanceAs (Decidable (server.Admits detector event ∧
      AdmitsAll codec detector now (server.step codec now event).1 later))

/-- Events that can happen one after the other make a run. -/
theorem Run.all (now : String) {later : List ServerEvent}
    (run : Run codec settings detector events server)
    (admitted : AdmitsAll codec detector now server later) :
    Run codec settings detector (events ++ later) (server.after codec now later) := by
  induction later generalizing events server with
  | nil => simpa [after] using run
  | cons event later ih =>
    have next := ih (run.step now admitted.1) admitted.2
    rwa [List.append_assoc] at next

/-- From the start on. -/
theorem Run.of_admitsAll {now : String} {later : List ServerEvent}
    (admitted : AdmitsAll codec detector now (.start settings) later) :
    Run codec settings detector later ((Server.start settings).after codec now later) := by
  have run := Run.start.all now admitted
  rwa [List.nil_append] at run

/-! ## How every client stands -/

/-- A client that was not accepted has done nothing; any other one stands somewhere. -/
def Placed (codec : ImageCodec) (settings : DetectionSettings) (detector : Detector)
    (client : Nat) (events : List ServerEvent) (server : Server) : Prop :=
  (server.sessions client = none ∧ server.tasksOf client = [] ∧
      ownEvents client events = []) ∨
    StandsAt codec settings detector client (ownCalls client events) (isLost client events) server

theorem Placed.step_of_ne (placed : Placed codec settings detector client events server)
    (apart : event.client? ≠ some client) (now : String) :
    Placed codec settings detector client (events ++ [event]) (server.step codec now event).1 := by
  obtain ⟨sameSession, sameTasks⟩ := Server.step_of_ne apart codec now server
  have sameEvents := ownEvents_append_of_none (ServerEvent.own?_eq_none apart) events
  rcases placed with ⟨stranger, idle, silent⟩ | ⟨session, known, standing⟩
  · left
    exact ⟨sameSession.trans stranger, (idle ▸ sameTasks).eq_nil, sameEvents.trans silent⟩
  · right
    rw [ownCalls, isLost, sameEvents]
    exact ⟨session, sameSession.trans known, standing.of_perm sameTasks⟩

theorem Placed.step_connected (placed : Placed codec settings detector client events server)
    (now : String) :
    Placed codec settings detector client (events ++ [.connected client])
      (server.step codec now (.connected client)).1 := by
  have foreign : (ServerEvent.connected client).own? client = none := rfl
  have sameEvents := ownEvents_append_of_none foreign events
  rw [Placed, ownCalls, isLost, sameEvents]
  simp only [step]
  split
  · next accepted =>
    right
    rcases placed with ⟨stranger, idle, silent⟩ | ⟨session, known, standing⟩
    · rw [silent]
      refine ⟨_, sessions_withSession_self .., ?_⟩
      rw [tasksOf_withSession]
      exact idle.symm ▸ .reading (.inl rfl) rfl
    · simp [known] at accepted
  · exact placed

theorem Placed.step_session (placed : Placed codec settings detector client events server)
    {own : Session.Event} (admitted : server.Admits detector (.session client own))
    (now : String) :
    Placed codec settings detector client (events ++ [.session client own])
      (server.step codec now (.session client own)).1 := by
  rcases placed with ⟨stranger, -, -⟩ | ⟨session, known, standing⟩
  · simp [Admits, stranger] at admitted
  · right
    have calls : ownCalls client (events ++ [.session client own]) =
        ownCalls client events ++ own.call?.toList := by
      cases call : own.call? <;> simp [ownCalls, ownEvents, ServerEvent.own?, call]
    have loss : isLost client (events ++ [.session client own]) =
        (isLost client events || own.isLoss) := by
      simp [isLost, ownEvents, ServerEvent.own?]
    rw [calls, loss]
    exact standsAt_session known standing own now

/-- A step of a detection that leaves all detections and all sessions leaves clients where they
are. -/
theorem Placed.of_same {next : Server} (placed : Placed codec settings detector client events server)
    (foreign : event.own? client = none) (sameSessions : next.sessions = server.sessions)
    (sameTasks : next.tasks = server.tasks) :
    Placed codec settings detector client (events ++ [event]) next := by
  have sameEvents := ownEvents_append_of_none foreign events
  rw [Placed, StandsAt, tasksOf, sameSessions, sameTasks, ownCalls, isLost, sameEvents]
  exact placed

theorem Placed.step_released (placed : Placed codec settings detector client events server)
    (isTrue : ∀ holder ∈ server.holding, holder.IsTrue codec settings detector) (now : String) :
    Placed codec settings detector client (events ++ [.released client])
      (server.step codec now (.released client)).1 := by
  have foreign : (ServerEvent.released client).own? client = none := rfl
  rcases placed with ⟨stranger, idle, silent⟩ | ⟨session, known, standing⟩
  · have same : server.step codec now (.released client) = (server, []) := by
      rcases step_released_cases codec now server client with same | ⟨task, response, held, own, -⟩
      · exact same
      · have inside : task ∈ server.tasksOf client := List.mem_filter.mpr
          ⟨List.mem_append_right _ (List.mem_map_of_mem held), by simpa using own⟩
        rw [idle] at inside
        cases inside
    rw [same]
    exact Placed.of_same (.inl ⟨stranger, idle, silent⟩) foreign rfl rfl
  · have sameEvents := ownEvents_append_of_none foreign events
    rw [Placed, ownCalls, isLost, sameEvents]
    exact .inr (standsAt_released known standing isTrue now)

/-- In every run every detection gets as far as the detector brings it, and every client stands
somewhere. -/
theorem Run.placed (run : Run codec settings detector events server) :
    server.settings = settings ∧
      (∀ holder ∈ server.holding, holder.IsTrue codec settings detector) ∧
      ∀ client, Placed codec settings detector client events server := by
  induction run with
  | start => exact ⟨rfl, by simp [Server.start], fun client => .inl ⟨rfl, rfl, rfl⟩⟩
  | @step events server event now before admitted ih =>
    obtain ⟨sameSettings, isTrue, placed⟩ := ih
    refine ⟨(settings_step codec now server event).trans sameSettings,
      isTrue_step sameSettings isTrue admitted now, fun client => ?_⟩
    by_cases apart : event.client? = some client
    · cases event with
      | connected other =>
        cases apart
        exact (placed client).step_connected now
      | session other own =>
        cases apart
        exact (placed client).step_session admitted now
      | detected other answer =>
        exact (placed client).of_same rfl rfl (tasks_proceed _ _ _ (Holder.task_answer answer))
      | drawn other =>
        exact (placed client).of_same rfl rfl (tasks_proceed _ _ _ (Holder.task_draw codec _ now))
      | released other =>
        cases apart
        exact (placed client).step_released isTrue now
      | shutdown => cases apart
    · exact (placed client).step_of_ne apart now

/-! ## What a client receives -/

section

variable (standing : Standing codec settings detector client calls lost tasks session)

include standing

/-- A response that a client is sent is that of the one request that its calls hand out. -/
theorem Standing.of_response {response : Response} (sent : session.response = some response) :
    ∃ request now, Connection.requestsOf calls = [request] ∧
      (handle codec settings detector now request).response = some response ∧
      session.output <+: response.toBytes := by
  cases standing with
  | reading gathering quiet => cases sent
  | handling processing handedOut planned => cases sent
  | writing handedOut responds parts =>
    cases sent
    exact ⟨_, _, handedOut, responds, _, parts⟩
  | answered handedOut responds parts why =>
    cases sent
    exact ⟨_, _, handedOut, responds, _, parts⟩
  | unanswered why => cases sent

/-- Without a response nothing is sent. -/
theorem Standing.output_eq_nil (silent : session.response = none) : session.output = [] := by
  cases standing with
  | writing handedOut responds parts => cases silent
  | answered handedOut responds parts why => cases silent
  | _ => rfl

/-- A client is sent nothing if there is nothing to answer, if its detection is not over or has no
response, or if its session was cut short. -/
theorem Standing.of_silent (silent : session.response = none) :
    Connection.requestsOf calls = [] ∨ (∃ task ∈ tasks, task.client = client) ∨ lost = true ∨
      ∃ request now, Connection.requestsOf calls = [request] ∧
        (handle codec settings detector now request).response = none := by
  cases standing with
  | reading gathering quiet => exact .inl quiet
  | handling processing handedOut planned =>
    exact .inr (.inl ⟨_, List.mem_singleton_self _, rfl⟩)
  | writing handedOut responds parts => cases silent
  | answered handedOut responds parts why => cases silent
  | unanswered why =>
    rcases why with gone | nothing | crashed
    · exact .inr (.inr (.inl gone))
    · exact .inl (by simpa using nothing [])
    · exact .inr (.inr (.inr crashed))

/-- A session that has ended and was not cut short has sent all that there is to send. -/
theorem Standing.of_ended (ended : session.ended = true) (sound : lost = false) :
    (Connection.requestsOf calls = [] ∧ session.output = []) ∨
      ∃ request now, Connection.requestsOf calls = [request] ∧
        session.output = (handle codec settings detector now request).output := by
  cases standing with
  | reading gathering quiet => cases ended
  | handling processing handedOut planned => cases ended
  | writing handedOut responds parts => cases ended
  | answered handedOut responds parts why =>
    rcases why with gone | rfl
    · rw [gone] at sound
      cases sound
    · rw [List.append_nil] at parts
      exact .inr ⟨_, _, handedOut, parts.trans (Handled.output_of_some responds).symm⟩
  | unanswered why =>
    rcases why with gone | nothing | ⟨request, now, handedOut, crashed⟩
    · rw [gone] at sound
      cases sound
    · exact .inl ⟨by simpa using nothing [], rfl⟩
    · exact .inr ⟨request, now, handedOut, (Handled.output_of_none crashed).symm⟩

end

theorem Run.standing (run : Run codec settings detector events server)
    (accepted : server.sessions client = some session) :
    Standing codec settings detector client (ownCalls client events) (isLost client events)
      (server.tasksOf client) session := by
  rcases run.placed.2.2 client with ⟨stranger, -, -⟩ | ⟨known, same, standing⟩
  · rw [stranger] at accepted
    cases accepted
  · rw [same] at accepted
    cases accepted
    exact standing

/-- Whatever the clients of a service do, and however their events, the steps of their detections
and the end of the service follow one another: what a client has received is a part, from its start
on, of the response to the request that its own reads hand out on a connection of their own.  When
its session has ended it is all of it, unless the session was cut short.  There is no response only
if the reads hand out no request, or its detection waits or holds a permit, or the session was cut
short, or the request has none.  The response in any other run in which the client is read from in
the same way is the same but for the time. -/
theorem received_from_own (run : Run codec settings detector events server)
    (accepted : server.sessions client = some session) :
    (session.output = [] ∨
      ∃ request now response,
        (∀ id, (Connection.fresh id).requests (ownCalls client events) = [request]) ∧
        (handle codec settings detector now request).response = some response ∧
        session.output <+: response.toBytes) ∧
    (session.ended = true → isLost client events = false →
      ((∀ id, (Connection.fresh id).requests (ownCalls client events) = []) ∧
        session.output = []) ∨
      ∃ request now,
        (∀ id, (Connection.fresh id).requests (ownCalls client events) = [request]) ∧
        session.output = (handle codec settings detector now request).output) ∧
    (session.response = none →
      (∀ id, (Connection.fresh id).requests (ownCalls client events) = []) ∨
        (∃ task ∈ server.tasks, task.client = client) ∨ isLost client events = true ∨
        ∃ request now,
          (∀ id, (Connection.fresh id).requests (ownCalls client events) = [request]) ∧
          (handle codec settings detector now request).response = none) ∧
    (∀ {others : List ServerEvent} {other : Server} {again : Session},
      Run codec settings detector others other → other.sessions client = some again →
      ownCalls client others = ownCalls client events →
      ∀ response ∈ session.response, ∀ repeated ∈ again.response,
        repeated = response.stamped repeated.timestamp) := by
  have standing := run.standing accepted
  have anyId : ∀ {requests : List InboundRequest},
      Connection.requestsOf (ownCalls client events) = requests →
        ∀ id, (Connection.fresh id).requests (ownCalls client events) = requests :=
    fun handedOut id => (Connection.requests_fresh id _).trans handedOut
  refine ⟨?_, fun ended sound => ?_, fun silent => ?_,
    fun otherRun known sameCalls response sent repeated sentAgain => ?_⟩
  · cases sent : session.response with
    | none => exact .inl (standing.output_eq_nil sent)
    | some response =>
      obtain ⟨request, now, handedOut, responds, initial⟩ := standing.of_response sent
      exact .inr ⟨request, now, response, anyId handedOut, responds, initial⟩
  · rcases standing.of_ended ended sound with ⟨nothing, silent⟩ | ⟨request, now, handedOut, all⟩
    · exact .inl ⟨anyId nothing, silent⟩
    · exact .inr ⟨request, now, anyId handedOut, all⟩
  · rcases standing.of_silent silent with
      nothing | ⟨task, member, own⟩ | lost | ⟨request, now, handedOut, crashed⟩
    · exact .inl (anyId nothing)
    · exact .inr (.inl ⟨task, List.mem_of_mem_filter member, own⟩)
    · exact .inr (.inr (.inl lost))
    · exact .inr (.inr (.inr ⟨request, now, anyId handedOut, crashed⟩))
  · obtain ⟨request, now, handedOut, responds, -⟩ := standing.of_response sent
    obtain ⟨requestAgain, later, handedOutAgain, respondsAgain, -⟩ :=
      (otherRun.standing known).of_response sentAgain
    rw [sameCalls, handedOut] at handedOutAgain
    cases handedOutAgain
    rw [handle_eq_stamped codec settings detector later now request, responds] at respondsAgain
    cases respondsAgain
    rw [Response.timestamp_stamped]

/-- Detections one at a time, without annotated images. -/
def oneAtATime : DetectionSettings := ⟨false, some 1, 90⟩

/-- A detector that knows one image, on which there is nothing. -/
def narrowDetector : Detector := fun image =>
  if image = [0xFF] then .ok [] else .error (.undecodable "unknown image")

/-- A client waits for the permit of another one, which is lost, and meanwhile the service ends. -/
def twoClients : List ServerEvent :=
  [.connected 1, .connected 2, .session 2 (.chunk [0xFE]), .session 2 .endOfStream,
    .session 1 (.chunk [0xFF]), .session 1 .endOfStream, .shutdown,
    .detected 2 (narrowDetector [0xFE]), .drawn 2, .released 2, .session 2 .writeFailed,
    .detected 1 (narrowDetector [0xFF]), .drawn 1, .released 1, .session 1 (.wrote 7),
    .session 1 (.wrote 1000), .session 1 .finished]

/-- The client that waited has the whole response to its own image. -/
theorem received_from_own_twoClients :
    ∃ server session,
      Run (.pixmaps fun _ _ => []) oneAtATime narrowDetector twoClients server ∧
      server.sessions 1 = some session ∧
      ∃ now, session.output =
        (handle (.pixmaps fun _ _ => []) oneAtATime narrowDetector now (.raw [0xFF])).output := by
  have admitted : AdmitsAll (.pixmaps fun _ _ => []) narrowDetector "now" (.start oneAtATime)
      twoClients := by
    decide +kernel
  have run := Run.of_admitsAll admitted
  have handedOut : (Connection.fresh 1).requests (ownCalls 1 twoClients) = [.raw [0xFF]] := by
    decide +kernel
  have finished : (((Server.start oneAtATime).after (.pixmaps fun _ _ => []) "now"
      twoClients).sessions 1).map Session.ended = some true := by
    decide +kernel
  obtain ⟨session, accepted, ended⟩ := Option.map_eq_some_iff.mp finished
  obtain ⟨-, whole, -, -⟩ := received_from_own run accepted
  have sound : isLost 1 twoClients = false := by decide +kernel
  rcases whole ended sound with ⟨nothing, -⟩ | ⟨request, now, own, output⟩
  · have same := nothing 1
    rw [handedOut] at same
    cases same
  · have same := own 1
    rw [handedOut] at same
    cases same
    exact ⟨_, session, run, accepted, now, output⟩

/-- A client sends an image, and the socket takes the first byte of the response. -/
def oneByteWritten : List ServerEvent :=
  [.connected 1, .session 1 (.chunk [0xFF]), .session 1 .endOfStream,
    .detected 1 (narrowDetector [0xFF]), .drawn 1, .released 1, .session 1 (.wrote 1)]

/-- A client sends a request and a byte behind it, and the request is read before the byte. -/
def readInTwo : List ServerEvent :=
  [.connected 1, .session 1 (.chunk Connection.numberedRequest.toBytes),
    .session 1 (.chunk [0x78]), .detected 1 (narrowDetector (Bytes.ofText "hi")), .drawn 1,
    .released 1, .session 1 (.wrote 1)]

/-- No response is a single brace. -/
theorem output_handle_ne_brace (now : String) :
    (handle (.pixmaps fun _ _ => []) oneAtATime narrowDetector now (.raw [0xFF])).output ≠
      [Ascii.openBrace] := by
  have planned : plan (.raw [0xFF]) = .detect [0xFF] none := rfl
  rw [handle_of_detect planned]
  have responds : respond (.pixmaps fun _ _ => []) oneAtATime now [0xFF] none
      (narrowDetector [0xFF]) = some (.ofPredictions [] none now) := rfl
  have nothing : ∀ detections, narrowDetector [0xFF] = .ok detections → Reportable detections := by
    intro detections found
    cases found
    exact ⟨by decide, by simp⟩
  have made := isMade_of_respond responds nothing
  have judged := Client.judge_toBytes made.scoresReadBack (Client.inconsistency?_of_isMade made)
  rw [Handled.output_of_some responds]
  intro brace
  rw [brace] at judged
  have undecided : Client.judge [Ascii.openBrace] = none :=
    Client.judge_eq_none_iff.mpr (by decide +kernel)
  rw [undecided] at judged
  cases judged

/-- A client can have received a part of its response that is neither nothing nor all of it; and it
can receive a response although all that it has sent, read as one piece, hands out no request. -/
theorem received_part_or_byPieces :
    (∃ server session,
      Run (.pixmaps fun _ _ => []) oneAtATime narrowDetector oneByteWritten server ∧
      server.sessions 1 = some session ∧
      ¬ (session.output = [] ∨ ∃ request now,
        (Connection.fresh 1).requests (ownCalls 1 oneByteWritten) = [request] ∧
        session.output =
          (handle (.pixmaps fun _ _ => []) oneAtATime narrowDetector now request).output)) ∧
    ∃ server session,
      Run (.pixmaps fun _ _ => []) oneAtATime narrowDetector readInTwo server ∧
      server.sessions 1 = some session ∧ session.output ≠ [] ∧
      (Connection.fresh 1).requests
        [.data ((ownCalls 1 readInTwo).flatMap Connection.Call.bytes)] = [] := by
  constructor
  · have admitted : AdmitsAll (.pixmaps fun _ _ => []) narrowDetector "now" (.start oneAtATime)
        oneByteWritten := by
      decide +kernel
    have handedOut : (Connection.fresh 1).requests (ownCalls 1 oneByteWritten) =
        [.raw [0xFF]] := by
      decide +kernel
    have received : (((Server.start oneAtATime).after (.pixmaps fun _ _ => []) "now"
        oneByteWritten).sessions 1).map Session.output = some [Ascii.openBrace] := by
      decide +kernel
    obtain ⟨session, accepted, output⟩ := Option.map_eq_some_iff.mp received
    have run := Run.of_admitsAll admitted
    refine ⟨_, session, run, accepted, ?_⟩
    rw [output, handedOut]
    rintro (nothing | ⟨request, now, own, all⟩)
    · cases nothing
    · cases own
      exact output_handle_ne_brace now all.symm
  · have admitted : AdmitsAll (.pixmaps fun _ _ => []) narrowDetector "now" (.start oneAtATime)
        readInTwo := by
      decide +kernel
    have received : (((Server.start oneAtATime).after (.pixmaps fun _ _ => []) "now"
        readInTwo).sessions 1).map Session.output = some [Ascii.openBrace] := by
      decide +kernel
    have run := Run.of_admitsAll admitted
    obtain ⟨session, accepted, output⟩ := Option.map_eq_some_iff.mp received
    refine ⟨_, session, run, accepted, ?_, by decide +kernel⟩
    rw [output]
    exact List.cons_ne_nil _ _

end Server

end Service

end FrameCourier
