import FrameCourier.Proofs.Service.Standing

/-!
# Detections that requests await

A client has a detection exactly while its session awaits one: it comes with the request that needs
it, and is over when the session is told what has come of it or has ended.  Nothing is asked of the
detector's answers here, so this holds however the detector behaves.
-/

namespace FrameCourier.Service

open Picture

/-- A session that is told what has come of its request has none in flight any more. -/
theorem Session.step_telling {session : Session} {request : InboundRequest}
    (asked : session.inFlight = some request) (response : Option Wire.Response) :
    (session.step (.telling response)).1.Keeps ∧
      (session.step (.telling response)).1.inFlight = none := by
  obtain ⟨connection, peerOpen, phase, output⟩ := session
  cases phase with
  | handling request => cases response <;> exact ⟨trivial, rfl⟩
  | _ => cases asked

namespace Server

variable {server : Server} {client : Nat}

/-! ## Detections and sessions -/

/-- What a client has: one detection if its session awaits one, and none otherwise. -/
inductive Accounted (client : Nat) : List Task → Option Session → Prop where
  | stranger : Accounted client [] none
  | idle {session : Session} (keeps : session.Keeps) (nothing : session.inFlight = none) :
      Accounted client [] (some session)
  | detecting {session : Session} {request : InboundRequest} {image : Bytes}
      {requestTimestamp : Option String} (keeps : session.Keeps)
      (asked : session.inFlight = some request)
      (planned : plan request = .detect image requestTimestamp) :
      Accounted client [⟨client, image, requestTimestamp⟩] (some session)

/-- A client of a service is accounted for. -/
def Accounts (server : Server) (client : Nat) : Prop :=
  Accounted client (server.tasksOf client) (server.sessions client)

section

variable {tasks : List Task} {session : Option Session}
  (accounted : Accounted client tasks session)

include accounted

theorem Accounted.length_le : tasks.length ≤ 1 := by
  cases accounted with
  | detecting keeps asked planned => exact Nat.le_refl 1
  | _ => exact Nat.zero_le 1

theorem Accounted.of_perm {others : List Task} (same : others.Perm tasks) :
    Accounted client others session := by
  rw [eq_of_perm_of_length_le_one same accounted.length_le]
  exact accounted

/-- A detection is what a session awaits. -/
theorem Accounted.of_mem {task : Task} (member : task ∈ tasks) :
    ∃ awaiting request, session = some awaiting ∧ awaiting.inFlight = some request ∧
      plan request = .detect task.image task.requestTimestamp := by
  cases accounted with
  | detecting keeps asked planned =>
    cases List.mem_singleton.mp member
    exact ⟨_, _, rfl, asked, planned⟩
  | _ => cases member

end

theorem Accounted.eq_nil {tasks : List Task} (accounted : Accounted client tasks none) :
    tasks = [] := by
  cases accounted
  rfl

theorem Accounted.keeps {tasks : List Task} {session : Session}
    (accounted : Accounted client tasks (some session)) : session.Keeps := by
  cases accounted with
  | idle keeps nothing => exact keeps
  | detecting keeps asked planned => exact keeps

theorem mem_tasksOf {task : Task} (member : task ∈ server.tasks) :
    task ∈ server.tasksOf task.client :=
  List.mem_filter.mpr ⟨member, by simp⟩

theorem mem_tasks_of_holding {holder : Holder} (held : holder ∈ server.holding) :
    holder.task ∈ server.tasks :=
  List.mem_append_right _ (List.mem_map_of_mem held)

theorem accounts_withSession {session : Session}
    (accounted : Accounted client (server.tasksOf client) (some session)) :
    (server.withSession client session).Accounts client := by
  rw [Accounts, tasksOf_withSession, sessions_withSession_self]
  exact accounted

/-- When a client leaves, it has no detection. -/
theorem accounts_leave {session : Session} (few : (server.tasksOf client).length ≤ 1)
    (known : server.sessions client = some session) (keeps : session.Keeps)
    (nothing : session.inFlight = none) : (server.leave client).1.Accounts client := by
  rw [Accounts, tasksOf_leave_eq_nil few, sessions_leave, known]
  exact .idle keeps nothing

/-- A request that is refused is over at once; any other one has its detection. -/
theorem accounts_attend {session : Session} {request : InboundRequest}
    (known : server.sessions client = some session) (keeps : session.Keeps)
    (asked : session.inFlight = some request) (none : server.tasksOf client = []) (now : String) :
    (server.attend now client request).1.Accounts client := by
  unfold attend
  cases planned : plan request with
  | refuse message =>
    obtain ⟨stillKeeps, nothing⟩ := Session.step_telling asked (some (.ofError message now))
    simp only [tell_of_some server client known]
    refine accounts_withSession ?_
    rw [none]
    exact .idle stillKeeps nothing
  | detect image requestTimestamp =>
    have entered := server.tasksOf_enter ⟨client, image, requestTimestamp⟩ client
    rw [none] at entered
    simp only [Accounts, sessions_enter, known]
    exact (Accounted.detecting keeps asked planned).of_perm (by simpa using entered)

/-! ## Steps -/

/-- What happens in a client's session keeps the client accounted for. -/
theorem Accounts.step_session (accounts : server.Accounts client) (codec : ImageCodec)
    (now : String) (event : Session.Event) :
    (server.step codec now (.session client event)).1.Accounts client := by
  cases known : server.sessions client with
  | none =>
    rw [step_session_of_stranger codec now known]
    exact accounts
  | some session =>
    cases heard : server.hears client event with
    | false =>
      rw [step_session_of_not_hears codec now heard]
      exact accounts
    | true =>
      have accounted : Accounted client (server.tasksOf client) (some session) := known ▸ accounts
      have few := accounted.length_le
      have effect := Session.effect_step accounted.keeps event
      have keeps := effect.keeps accounted.keeps
      have own := Session.Event.isOwn_of_mayCome (Bool.and_eq_true_iff.mp heard).1
      rcases effect.inFlight_cases own with
        ⟨quiet, goesOn⟩ | ⟨free, made, brings, asked⟩
      · cases finished : (session.step event).1.ended with
        | true =>
          rw [step_session_of_ended codec now heard known quiet finished]
          exact accounts_leave few (sessions_withSession_self ..) keeps
            (Session.inFlight_of_ended finished)
        | false =>
          rw [step_session_of_none codec now heard known quiet finished]
          refine accounts_withSession ?_
          rw [finished] at goesOn
          have same := goesOn.resolve_left Bool.false_ne_true
          generalize server.tasksOf client = tasks at accounted
          cases accounted with
          | idle before nothing => exact .idle keeps (same.trans nothing)
          | detecting before asked planned => exact .detecting keeps (same.trans asked) planned
      · have none : server.tasksOf client = [] := by
          generalize server.tasksOf client = tasks at accounted
          cases accounted with
          | idle before nothing => rfl
          | detecting before asked planned =>
            rw [free] at asked
            cases asked
        rw [step_session_of_some codec now heard known brings]
        exact accounts_attend (sessions_withSession_self ..) keeps asked none now

/-- The end of a client's detection keeps the client accounted for. -/
theorem Accounts.step_released (accounts : server.Accounts client) (codec : ImageCodec)
    (now : String) : (server.step codec now (.released client)).1.Accounts client := by
  rcases step_released_cases codec now server client with same | ⟨task, response, held, own, same⟩
  · rw [same]
    exact accounts
  · have member : task ∈ server.tasksOf client := own ▸ mem_tasksOf (mem_tasks_of_holding held)
    obtain ⟨session, request, known, asked, -⟩ := Accounted.of_mem accounts member
    obtain ⟨keeps, nothing⟩ := Session.step_telling asked response
    rw [same, tell_of_some server client known]
    exact accounts_leave (Accounted.length_le accounts) (sessions_withSession_self ..) keeps nothing

/-- A step that leaves all sessions and all detections keeps clients accounted for. -/
theorem Accounts.of_same {next : Server} (accounts : server.Accounts client)
    (sameSessions : next.sessions = server.sessions) (sameTasks : next.tasks = server.tasks) :
    next.Accounts client := by
  rw [Accounts, tasksOf, sameSessions, sameTasks]
  exact accounts

/-- Whatever happens, every client is accounted for. -/
theorem Accounts.step (accounts : server.Accounts client) (codec : ImageCodec) (now : String)
    (event : ServerEvent) : (server.step codec now event).1.Accounts client := by
  by_cases apart : event.client? = some client
  · cases event with
    | shutdown => cases apart
    | session other event =>
      cases apart
      exact accounts.step_session codec now event
    | detected other answer =>
      exact accounts.of_same rfl (tasks_proceed _ _ _ (Holder.task_answer answer))
    | drawn other =>
      exact accounts.of_same rfl (tasks_proceed _ _ _ (Holder.task_draw codec _ now))
    | released other =>
      cases apart
      exact accounts.step_released codec now
    | connected other =>
      cases apart
      simp only [Server.step]
      split
      · next accepted =>
        have stranger : server.sessions client = none := by
          simp only [Bool.and_eq_true, Option.isNone_iff_eq_none] at accepted
          exact accepted.2
        have accounted : Accounted client (server.tasksOf client) none := stranger ▸ accounts
        exact accounts_withSession (accounted.eq_nil ▸ .idle (Session.keeps_fresh _) rfl)
      · exact accounts
  · obtain ⟨sameSession, sameTasks⟩ := step_of_ne apart codec now server
    rw [Accounts, sameSession]
    exact accounts.of_perm sameTasks

/-- What holds a permit is what a session awaits. -/
theorem Accounts.of_holding (accounts : ∀ client, server.Accounts client) {holder : Holder}
    (held : holder ∈ server.holding) :
    ∃ session request, server.sessions holder.task.client = some session ∧
      session.inFlight = some request := by
  obtain ⟨session, request, known, asked, -⟩ :=
    Accounted.of_mem (accounts holder.task.client) (mem_tasksOf (mem_tasks_of_holding held))
  exact ⟨session, request, known, asked⟩

end Server

end FrameCourier.Service
