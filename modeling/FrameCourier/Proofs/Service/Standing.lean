import FrameCourier.Proofs.Service.Events
import FrameCourier.Proofs.Service.Tasks

/-!
# How a client stands

From what a client has done it follows how far the service is with it: it reads, or the detection
for its request waits or holds a permit, or the response to that request is written, or its session
has ended with the response or without one.  Every event of the client and every step of its
detection keeps it so, as long as the detector answers what it has for the image.
-/

namespace FrameCourier.Service

open Wire Picture

/-- Whether a session is cut short: it cannot be read from or written to any more, or it is dropped
with the service. -/
def Session.Event.isLoss : Session.Event → Bool
  | .readFailed | .writeFailed | .dropped => true
  | _ => false

namespace Session

variable {event : Event} {listening : Bool}

theorem Event.isOwn_of_mayCome (comes : event.mayCome listening = true) : event.isOwn = true := by
  cases event with
  | answered response => cases comes
  | crashed => cases comes
  | _ => rfl

/-- What does not come to a session is not read. -/
theorem Event.call?_of_not_mayCome (stays : event.mayCome listening = false) :
    event.call? = none := by
  cases event with
  | chunk bytes => cases stays
  | endOfStream => cases stays
  | readFailed => cases stays
  | _ => rfl

end Session

namespace Holder

variable {codec : ImageCodec} {settings : DetectionSettings} {detector : Detector} {holder : Holder}

/-- Whether a detection has got as far as it has by what the detector answers. -/
def IsTrue (codec : ImageCodec) (settings : DetectionSettings) (detector : Detector)
    (holder : Holder) : Prop :=
  match holder with
  | ⟨_, .calling⟩ => True
  | ⟨task, .answered answer⟩ => answer = detector task.image
  | ⟨task, .drawn response⟩ =>
    ∃ now, response =
      respond codec settings now task.image task.requestTimestamp (detector task.image)

section

variable (isTrue : holder.IsTrue codec settings detector)

include isTrue

theorem isTrue_answer {answer : Except DetectorFault (List Detection)}
    (right : answer = detector holder.task.image) :
    (holder.answer answer).IsTrue codec settings detector := by
  obtain ⟨task, progress⟩ := holder
  cases progress with
  | calling => exact right
  | answered earlier => exact isTrue
  | drawn response => exact isTrue

theorem isTrue_draw (now : String) :
    (holder.draw codec settings now).IsTrue codec settings detector := by
  obtain ⟨task, progress⟩ := holder
  cases progress with
  | calling => exact isTrue
  | answered answer =>
    have same : answer = detector task.image := isTrue
    exact ⟨now, by rw [← same]⟩
  | drawn response => exact isTrue

end

end Holder

namespace Server

/-! ## How a client stands -/

/-- How far a client is that has made these calls on its connection, with its detections and its
session. -/
inductive Standing (codec : ImageCodec) (settings : DetectionSettings) (detector : Detector)
    (client : Nat) : List Connection.Call → Bool → List Task → Session → Prop where
  /-- What it has sent is no request yet. -/
  | reading {calls : List Connection.Call} {lost : Bool} {id : UInt64}
      (gathering : ((Connection.fresh id).after calls).IsGathering)
      (quiet : Connection.requestsOf calls = []) :
      Standing codec settings detector client calls lost []
        ⟨(Connection.fresh id).after calls, true, .reading, []⟩
  /-- The detection that its request needs waits for a permit or holds one. -/
  | handling {calls : List Connection.Call} {lost : Bool} {connection : Connection}
      {peerOpen : Bool} {request : InboundRequest} {image : Bytes}
      {requestTimestamp : Option String} (processing : connection.state = .processing)
      (handedOut : Connection.requestsOf calls = [request])
      (planned : plan request = .detect image requestTimestamp) :
      Standing codec settings detector client calls lost [⟨client, image, requestTimestamp⟩]
        ⟨connection, peerOpen, .handling request, []⟩
  /-- It is sent the response to its request. -/
  | writing {calls : List Connection.Call} {lost : Bool} {connection : Connection}
      {peerOpen : Bool} {request : InboundRequest} {now : String} {response : Response}
      {output left : Bytes} (handedOut : Connection.requestsOf calls = [request])
      (responds : (handle codec settings detector now request).response = some response)
      (parts : output ++ left = response.toBytes) :
      Standing codec settings detector client calls lost []
        ⟨connection, peerOpen, .writing response left, output⟩
  /-- Its session has ended after some or all of the response, after all unless it was lost. -/
  | answered {calls : List Connection.Call} {lost : Bool} {connection : Connection}
      {peerOpen : Bool} {request : InboundRequest} {now : String} {response : Response}
      {output left : Bytes} (handedOut : Connection.requestsOf calls = [request])
      (responds : (handle codec settings detector now request).response = some response)
      (parts : output ++ left = response.toBytes) (why : lost = true ∨ left = []) :
      Standing codec settings detector client calls lost []
        ⟨connection, peerOpen, .ended (some response), output⟩
  /-- Its session has ended without a response: it was lost, or no request can come of it, or its
  request has none. -/
  | unanswered {calls : List Connection.Call} {lost : Bool} {connection : Connection}
      {peerOpen : Bool}
      (why : lost = true ∨ (∀ more, Connection.requestsOf (calls ++ more) = []) ∨
        ∃ request now, Connection.requestsOf calls = [request] ∧
          (handle codec settings detector now request).response = none) :
      Standing codec settings detector client calls lost []
        ⟨connection, peerOpen, .ended none, []⟩

/-- A client stands with what the service has of it. -/
def StandsAt (codec : ImageCodec) (settings : DetectionSettings) (detector : Detector)
    (client : Nat) (calls : List Connection.Call) (lost : Bool) (server : Server) : Prop :=
  ∃ session, server.sessions client = some session ∧
    Standing codec settings detector client calls lost (server.tasksOf client) session

variable {codec : ImageCodec} {settings : DetectionSettings} {detector : Detector} {client : Nat}
  {calls : List Connection.Call} {lost : Bool} {tasks : List Task} {session : Session}
  {server : Server}

section

variable (standing : Standing codec settings detector client calls lost tasks session)

include standing

theorem Standing.keeps : session.Keeps := by
  cases standing with
  | reading gathering quiet => exact ⟨gathering, rfl⟩
  | handling processing handedOut planned => exact processing
  | _ => trivial

theorem Standing.length_tasks_le : tasks.length ≤ 1 := by
  cases standing with
  | handling processing handedOut planned => exact Nat.le_refl 1
  | _ => exact Nat.zero_le 1

/-- A client has one detection at most, so it does not matter in which order it has them. -/
theorem Standing.of_perm {others : List Task} (same : others.Perm tasks) :
    Standing codec settings detector client calls lost others session := by
  rw [eq_of_perm_of_length_le_one same standing.length_tasks_le]
  exact standing

/-- The detection of a session that has ended is over. -/
theorem Standing.tasks_eq_nil (ended : session.ended = true) : tasks = [] := by
  cases standing with
  | handling processing handedOut planned => cases ended
  | _ => rfl

/-- Nothing that a client sends behind its request, or that happens to it without a read, changes
how it stands. -/
theorem Standing.of_unread {more : List Connection.Call}
    (unread : session.isReading = true → session.inFlight = none → more = []) (loss : Bool) :
    Standing codec settings detector client (calls ++ more) (lost || loss) tasks session := by
  cases standing with
  | reading gathering quiet =>
    rw [unread rfl rfl, List.append_nil]
    exact .reading gathering quiet
  | handling processing handedOut planned =>
    exact .handling processing (Connection.requests_append_of_eq_singleton handedOut more) planned
  | writing handedOut responds parts =>
    exact .writing (Connection.requests_append_of_eq_singleton handedOut more) responds parts
  | answered handedOut responds parts why =>
    refine .answered (Connection.requests_append_of_eq_singleton handedOut more) responds parts ?_
    exact why.imp_left fun gone => by rw [gone, Bool.true_or]
  | unanswered why =>
    refine .unanswered ?_
    rcases why with gone | nothing | ⟨request, now, handedOut, crashed⟩
    · exact .inl (by rw [gone, Bool.true_or])
    · refine .inr (.inl fun later => ?_)
      rw [List.append_assoc]
      exact nothing (more ++ later)
    · exact .inr (.inr ⟨request, now,
        Connection.requests_append_of_eq_singleton handedOut more, crashed⟩)

/-- A client whose detection is not over waits for its response. -/
theorem Standing.of_mem_tasks {task : Task} (member : task ∈ tasks) :
    ∃ connection peerOpen request,
      session = ⟨connection, peerOpen, .handling request, []⟩ ∧
      Connection.requestsOf calls = [request] ∧
      plan request = .detect task.image task.requestTimestamp := by
  cases standing with
  | handling processing handedOut planned =>
    cases List.mem_singleton.mp member
    exact ⟨_, _, _, rfl, handedOut, planned⟩
  | _ => cases member

/-! ## A session and its client -/

/-- What an event that a session learns of by itself makes of its client: the session goes on or
ends, or it has a request that is not yet seen to. -/
theorem Standing.of_effect {event : Session.Event} {next : Session}
    {request : Option InboundRequest} (own : event.isOwn = true)
    (effect : session.Effect event next request) :
    (request = none ∧
      Standing codec settings detector client (calls ++ event.call?.toList) (lost || event.isLoss)
        (if next.ended then [] else tasks) next) ∨
    ∃ connection peerOpen made, request = some made ∧ tasks = [] ∧
      next = ⟨connection, peerOpen, .handling made, []⟩ ∧ connection.state = .processing ∧
      Connection.requestsOf (calls ++ event.call?.toList) = [made] := by
  cases effect with
  | gathered made gathering kept =>
    cases standing with
    | reading before quiet =>
      obtain ⟨rfl, handedOut⟩ := Connection.of_step made
      rw [quiet] at handedOut
      exact .inl ⟨rfl, .reading gathering handedOut⟩
  | assembled isRead made processing kept some stays =>
    cases standing with
    | reading before quiet =>
      have handedOut := (Connection.of_step made).2
      rw [quiet] at handedOut
      rw [isRead]
      exact .inr ⟨_, _, _, rfl, rfl, rfl, processing, handedOut⟩
  | deserted nothing made past =>
    cases standing with
    | reading before quiet =>
      obtain ⟨rfl, handedOut⟩ := Connection.of_step made
      rw [quiet] at handedOut
      refine .inl ⟨rfl, .unanswered (.inr (.inl fun more => ?_))⟩
      exact (Connection.requestsOf_append_of_not_isGathering past more).trans handedOut
  | overheard isRead made processing stays =>
    cases standing with
    | handling before handedOut planned =>
      have stillOne := Connection.requests_append_of_eq_singleton handedOut
      exact .inl ⟨rfl, .handling processing (stillOne _) planned⟩
  | readFailed waits =>
    cases standing with
    | reading before quiet => exact .inl ⟨rfl, .unanswered (.inl (Bool.or_true _))⟩
    | handling processing handedOut planned =>
      exact .inl ⟨rfl, .unanswered (.inl (Bool.or_true _))⟩
    | _ => cases waits
  | answered => cases own
  | crashed => cases own
  | wrote =>
    cases standing with
    | writing handedOut responds parts =>
      have stillOne := Connection.requests_append_of_eq_singleton handedOut
      refine .inl ⟨rfl, .writing (stillOne _) responds ?_⟩
      rw [List.append_assoc, List.take_append_drop, parts]
  | finished =>
    cases standing with
    | writing handedOut responds parts =>
      have stillOne := Connection.requests_append_of_eq_singleton handedOut
      exact .inl ⟨rfl, .answered (stillOne _) responds parts (.inr rfl)⟩
  | writeFailed =>
    cases standing with
    | writing handedOut responds parts =>
      have stillOne := Connection.requests_append_of_eq_singleton handedOut
      exact .inl ⟨rfl, .answered (stillOne _) responds parts (.inl (Bool.or_true _))⟩
  | dropped running =>
    cases standing with
    | reading before quiet => exact .inl ⟨rfl, .unanswered (.inl (Bool.or_true _))⟩
    | handling processing handedOut planned =>
      exact .inl ⟨rfl, .unanswered (.inl (Bool.or_true _))⟩
    | writing handedOut responds parts =>
      have stillOne := Connection.requests_append_of_eq_singleton handedOut
      exact .inl ⟨rfl, .answered (stillOne _) responds parts (.inl (Bool.or_true _))⟩
    | _ => cases running
  | unheard quiet mute sound =>
    have unread : session.isReading = true → session.inFlight = none → event.call?.toList = [] := by
      intro reading _
      rwa [Session.reads, if_pos reading] at quiet
    have still := standing.of_unread unread event.isLoss
    have kept : (if session.ended then [] else tasks) = tasks := by
      split
      · next ended => exact (standing.tasks_eq_nil ended).symm
      · rfl
    rw [kept]
    exact .inl ⟨rfl, still⟩

end

/-- A request that is told its response has it written; one that is told that there is none has its
session ended. -/
theorem standing_telling {connection : Connection} {peerOpen : Bool} {request : InboundRequest}
    {now : String} {response : Option Response}
    (handedOut : Connection.requestsOf calls = [request])
    (responds : (handle codec settings detector now request).response = response) :
    Standing codec settings detector client calls lost []
      ((⟨connection, peerOpen, .handling request, []⟩ : Session).step (.telling response)).1 := by
  cases response with
  | some response => exact .writing handedOut responds rfl
  | none => exact .unanswered (.inr (.inr ⟨request, now, handedOut, responds⟩))

/-! ## A client's own events -/

theorem standsAt_withSession {next : Session}
    (standing : Standing codec settings detector client calls lost (server.tasksOf client) next) :
    StandsAt codec settings detector client calls lost (server.withSession client next) :=
  ⟨next, sessions_withSession_self .., standing⟩

/-- What a client's leaving leaves of it. -/
theorem standsAt_leave {next : Session} (few : (server.tasksOf client).length ≤ 1)
    (ended : Standing codec settings detector client calls lost [] next) :
    StandsAt codec settings detector client calls lost
      ((server.withSession client next).leave client).1 := by
  have nothing : ((server.withSession client next).leave client).1.tasksOf client = [] :=
    tasksOf_leave_eq_nil few
  exact ⟨next, by simp, nothing ▸ ended⟩

/-- A request that was handed out is refused at once, or its detection waits or holds a permit. -/
theorem standsAt_attend {connection : Connection} {peerOpen : Bool} {request : InboundRequest}
    (processing : connection.state = .processing)
    (handedOut : Connection.requestsOf calls = [request])
    (known : server.sessions client = some ⟨connection, peerOpen, .handling request, []⟩)
    (idle : server.tasksOf client = []) (now : String) :
    StandsAt codec settings detector client calls lost (server.attend now client request).1 := by
  unfold attend
  cases planned : plan request with
  | refuse message =>
    have responds : (handle codec settings detector now request).response =
        some (.ofError message now) := by rw [handle_of_refuse planned]
    simp only [tell_of_some server client known]
    refine standsAt_withSession ?_
    rw [idle]
    exact standing_telling handedOut responds
  | detect image requestTimestamp =>
    have entered := server.tasksOf_enter ⟨client, image, requestTimestamp⟩ client
    rw [idle] at entered
    refine ⟨⟨connection, peerOpen, .handling request, []⟩, by simpa using known, ?_⟩
    exact (Standing.handling processing handedOut planned).of_perm (by simpa using entered)

section

variable (known : server.sessions client = some session)
  (standing : Standing codec settings detector client calls lost (server.tasksOf client) session)

include known standing

/-- A client whose response is being made has a request in flight. -/
theorem inFlight_of_isDrawing (drawing : server.isDrawing client = true) :
    session.inFlight ≠ none := by
  obtain ⟨holder, member, isIts⟩ := List.any_eq_true.mp drawing
  have own : holder.task.client = client := by
    simp only [Bool.and_eq_true, decide_eq_true_eq] at isIts
    exact isIts.1
  have held : holder.task ∈ server.tasksOf client :=
    List.mem_filter.mpr ⟨List.mem_append_right _ (List.mem_map_of_mem member), by simpa using own⟩
  obtain ⟨connection, peerOpen, request, rfl, -⟩ := standing.of_mem_tasks held
  exact Option.some_ne_none request

/-- Whatever happens to the session of a client, the client stands somewhere afterwards. -/
theorem standsAt_session (event : Session.Event) (now : String) :
    StandsAt codec settings detector client (calls ++ event.call?.toList) (lost || event.isLoss)
      (server.step codec now (.session client event)).1 := by
  cases heard : server.hears client event with
  | false =>
    -- An event that a session does not hear of is none of a client that is read from.
    rw [step_session_of_not_hears codec now heard]
    refine ⟨session, known, standing.of_unread (fun _ idle => ?_) event.isLoss⟩
    rcases Bool.and_eq_false_iff.mp heard with stays | drawing
    · rw [Session.Event.call?_of_not_mayCome stays]
      rfl
    · have busy : server.isDrawing client = true := by simpa using drawing
      exact absurd idle (inFlight_of_isDrawing known standing busy)
  | true =>
    have own := Session.Event.isOwn_of_mayCome (Bool.and_eq_true_iff.mp heard).1
    have effect := Session.effect_step standing.keeps event
    rcases standing.of_effect own effect with
      ⟨nothing, stands⟩ | ⟨connection, peerOpen, made, brings, idle, next, processing, handedOut⟩
    · cases finished : (session.step event).1.ended with
      | true =>
        rw [step_session_of_ended codec now heard known nothing finished]
        rw [finished] at stands
        exact standsAt_leave standing.length_tasks_le stands
      | false =>
        rw [step_session_of_none codec now heard known nothing finished]
        rw [finished] at stands
        exact standsAt_withSession stands
    · rw [step_session_of_some codec now heard known brings, next]
      exact standsAt_attend processing handedOut (sessions_withSession_self ..) idle now

end

/-! ## The steps of a detection -/

/-- What can happen to a service: clients that were accepted send and end, and the detector answers
what it has for the image. -/
def Admits (detector : Detector) (server : Server) : ServerEvent → Prop
  | .session client _ => (server.sessions client).isSome = true
  | .detected client answer =>
    ∀ holder ∈ server.holding, holder.task.client = client → answer = detector holder.task.image
  | _ => True

/-- As long as the detector answers what it has for the images, every detection gets as far as that
brings it. -/
theorem isTrue_step (sameSettings : server.settings = settings)
    (isTrue : ∀ holder ∈ server.holding, holder.IsTrue codec settings detector)
    {event : ServerEvent} (admitted : server.Admits detector event) (now : String) :
    ∀ holder ∈ (server.step codec now event).1.holding,
      holder.IsTrue codec settings detector := by
  intro holder member
  rcases mem_holding_step member with begun | before | ⟨before, inside, ⟨answer, rfl, rfl⟩ | rfl⟩
  · obtain ⟨task, progress⟩ := holder
    cases begun
    trivial
  · exact isTrue holder before
  · exact Holder.isTrue_answer (isTrue before inside) (admitted before inside rfl)
  · rw [sameSettings]
    exact Holder.isTrue_draw (isTrue before inside) now

/-- A client whose detection is over has its response written, or its session ends without one. -/
theorem standsAt_released (known : server.sessions client = some session)
    (standing : Standing codec settings detector client calls lost (server.tasksOf client) session)
    (isTrue : ∀ holder ∈ server.holding, holder.IsTrue codec settings detector) (now : String) :
    StandsAt codec settings detector client calls lost
      (server.step codec now (.released client)).1 := by
  rcases step_released_cases codec now server client with same | ⟨task, response, held, own, same⟩
  · rw [same]
    exact ⟨session, known, standing⟩
  · have member : task ∈ server.tasksOf client :=
      List.mem_filter.mpr ⟨List.mem_append_right _ (List.mem_map_of_mem held), by simpa using own⟩
    have few := standing.length_tasks_le
    obtain ⟨connection, peerOpen, request, rfl, handedOut, planned⟩ := standing.of_mem_tasks member
    obtain ⟨made, rfl⟩ := isTrue _ held
    rw [same, tell_of_some server client known]
    have responds : (handle codec settings detector made request).response =
        respond codec settings made task.image task.requestTimestamp (detector task.image) := by
      rw [handle_of_detect planned]
    exact standsAt_leave few (standing_telling handedOut responds)

end Server

end FrameCourier.Service
