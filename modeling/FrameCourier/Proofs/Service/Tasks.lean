import FrameCourier.Service.Server
import Mathlib.Data.List.Perm.Basic

/-!
# The detections of the clients

Detections wait for a permit or hold one, and end when their clients are told what has come of them
or are dropped.  However permits go round and however far a detection is, that is all: a permit
never adds a detection nor takes one away, and what one client's session does to its own detection
leaves those of the others.
-/

namespace FrameCourier.Service

open Picture

/-- The client that an event is about. -/
def ServerEvent.client? : ServerEvent → Option Nat
  | .connected client | .session client _ | .detected client _ => some client
  | .drawn client | .released client => some client
  | .shutdown => none

namespace Holder

@[simp] theorem task_answer (answer : Except DetectorFault (List Detection)) (holder : Holder) :
    (holder.answer answer).task = holder.task := by
  unfold Holder.answer
  split <;> rfl

@[simp] theorem task_draw (codec : ImageCodec) (settings : DetectionSettings) (now : String)
    (holder : Holder) : (holder.draw codec settings now).task = holder.task := by
  unfold Holder.draw
  split <;> rfl

end Holder

namespace Server

/-- The detections that wait for a permit or hold one. -/
def tasks (server : Server) : List Task := server.waiting ++ server.holding.map Holder.task

/-- Those of one client. -/
def tasksOf (server : Server) (client : Nat) : List Task :=
  server.tasks.filter fun task => task.client = client

variable {server : Server} {client other : Nat}

/-! ## Sessions -/

section

variable (server client other)

@[simp] theorem sessions_withSession_self (session : Session) :
    (server.withSession client session).sessions client = some session := by
  simp [withSession]

theorem sessions_withSession_of_ne (apart : other ≠ client) (session : Session) :
    (server.withSession client session).sessions other = server.sessions other := by
  simp [withSession, apart]

@[simp] theorem tasksOf_withSession (session : Session) :
    (server.withSession client session).tasksOf other = server.tasksOf other := rfl

theorem tell_of_some {session : Session} (known : server.sessions client = some session)
    (event : Session.Event) :
    server.tell client event =
      (server.withSession client (session.step event).1, (session.step event).2) := by
  simp [tell, known]

@[simp] theorem tasks_tell (event : Session.Event) :
    (server.tell client event).1.tasks = server.tasks := by
  unfold tell
  split <;> rfl

theorem tasksOf_tell (event : Session.Event) :
    (server.tell client event).1.tasksOf other = server.tasksOf other := by
  rw [tasksOf, tasks_tell, tasksOf]

@[simp] theorem settings_tell (event : Session.Event) :
    (server.tell client event).1.settings = server.settings := by
  unfold tell
  split <;> rfl

theorem sessions_tell_of_ne (apart : other ≠ client) (event : Session.Event) :
    (server.tell client event).1.sessions other = server.sessions other := by
  unfold tell
  split
  · rfl
  · exact sessions_withSession_of_ne server client other apart _

end

/-! ## Permits -/

@[simp] theorem sessions_enter (server : Server) (task : Task) :
    (server.enter task).1.sessions = server.sessions := by
  unfold enter
  split <;> rfl

@[simp] theorem settings_enter (server : Server) (task : Task) :
    (server.enter task).1.settings = server.settings := by
  unfold enter
  split <;> rfl

/-- A detection that is needed waits for a permit or holds one. -/
theorem tasks_enter (server : Server) (task : Task) :
    (server.enter task).1.tasks.Perm (server.tasks ++ [task]) := by
  unfold enter tasks
  split
  · rw [List.map_append, List.append_assoc, List.map_singleton]
  · rw [List.append_assoc, List.append_assoc]
    exact List.perm_append_comm.append_left server.waiting
  · rw [List.map_append, List.append_assoc, List.map_singleton]

@[simp] theorem sessions_release (server : Server) :
    server.release.1.sessions = server.sessions := by
  unfold release
  split <;> rfl

@[simp] theorem settings_release (server : Server) :
    server.release.1.settings = server.settings := by
  unfold release
  split <;> rfl

/-- A permit that is given back makes a detection begin that waits, and nothing else. -/
theorem tasks_release (server : Server) : server.release.1.tasks.Perm server.tasks := by
  unfold release tasks
  split
  · rfl
  · next waiting =>
    rw [waiting, List.map_append, List.map_singleton, ← List.append_assoc]
    exact List.perm_append_singleton ..
  · rfl

@[simp] theorem sessions_leave (server : Server) (client : Nat) :
    (server.leave client).1.sessions = server.sessions := by
  unfold leave
  split
  · exact sessions_release _
  · rfl

@[simp] theorem settings_leave (server : Server) (client : Nat) :
    (server.leave client).1.settings = server.settings := by
  unfold leave
  split
  · exact settings_release _
  · rfl

/-- The detection that a client's leaving ends is one that holds a permit, or else one that waits. -/
theorem tasks_leave (server : Server) (client : Nat) :
    (server.leave client).1.tasks.Perm
      (if server.holding.any fun holder => holder.task.client = client then
        server.waiting ++ (server.holding.map Holder.task).eraseP fun task => task.client = client
      else (server.waiting.eraseP fun task => task.client = client) ++
        server.holding.map Holder.task) := by
  unfold leave
  split
  · rw [List.eraseP_map]
    exact tasks_release _
  · exact .refl _

/-! ## Progress -/

section

variable (server client) (next : Holder → Holder)

/-- A detection that gets further stays the same detection. -/
theorem map_task_proceed (same : ∀ holder, (next holder).task = holder.task) :
    (server.proceed client next).holding.map Holder.task = server.holding.map Holder.task := by
  unfold proceed
  rw [List.map_map]
  refine List.map_congr_left fun holder _ => ?_
  simp only [Function.comp_apply]
  split
  · exact same holder
  · rfl

theorem tasks_proceed (same : ∀ holder, (next holder).task = holder.task) :
    (server.proceed client next).tasks = server.tasks := by
  rw [tasks, map_task_proceed server client next same]
  rfl

end

/-! ## The detections of one client -/

/-- A detection that is needed is one of its client. -/
theorem tasksOf_enter (server : Server) (task : Task) (client : Nat) :
    ((server.enter task).1.tasksOf client).Perm
      (server.tasksOf client ++ if task.client = client then [task] else []) := by
  have entered := (server.tasks_enter task).filter fun task => task.client = client
  rw [List.filter_append] at entered
  by_cases own : task.client = client
  · simpa [tasksOf, own] using entered
  · simpa [tasksOf, own] using entered

/-- Ending a client's detection leaves those of the others. -/
theorem filter_eraseP_of_ne (apart : other ≠ client) (tasks : List Task) :
    (tasks.eraseP fun task => task.client = client).filter (fun task => task.client = other) =
      tasks.filter fun task => task.client = other := by
  induction tasks with
  | nil => rfl
  | cons task tasks ih =>
    by_cases own : task.client = client
    · simp [own, Ne.symm apart]
    · simp [own, List.filter_cons, ih]

theorem length_filter_eraseP (client : Nat) (tasks : List Task) :
    ((tasks.eraseP fun task => task.client = client).filter
        fun task => task.client = client).length =
      (tasks.filter fun task => task.client = client).length - 1 := by
  induction tasks with
  | nil => rfl
  | cons task tasks ih =>
    by_cases own : task.client = client
    · simp [own]
    · simp [own, ih]

theorem tasksOf_leave_of_ne (apart : other ≠ client) :
    ((server.leave client).1.tasksOf other).Perm (server.tasksOf other) := by
  have left := (server.tasks_leave client).filter fun task => task.client = other
  unfold tasksOf
  refine left.trans ?_
  split
  · rw [List.filter_append, filter_eraseP_of_ne apart, tasks, List.filter_append]
  · rw [List.filter_append, filter_eraseP_of_ne apart, tasks, List.filter_append]

/-- A client that leaves has one detection less. -/
theorem length_tasksOf_leave (server : Server) (client : Nat) :
    ((server.leave client).1.tasksOf client).length = (server.tasksOf client).length - 1 := by
  have left := ((server.tasks_leave client).filter fun task => task.client = client).length_eq
  unfold tasksOf
  rw [left, tasks, List.filter_append, List.length_append]
  split
  -- What holds a permit goes first; the lengths add up because something of the client's does then.
  · next holds =>
    have some : 0 < ((server.holding.map Holder.task).filter
        fun task => task.client = client).length := by
      rw [List.any_eq_true] at holds
      obtain ⟨holder, member, own⟩ := holds
      exact List.length_pos_of_mem (List.mem_filter.mpr ⟨List.mem_map_of_mem member, own⟩)
    rw [List.filter_append, List.length_append, length_filter_eraseP]
    omega
  · next idle =>
    have none : (server.holding.map Holder.task).filter (fun task => task.client = client) = [] := by
      simpa using idle
    rw [List.filter_append, List.length_append, length_filter_eraseP, none]
    rfl

/-- A client that has one detection at most has none when it leaves. -/
theorem tasksOf_leave_eq_nil (few : (server.tasksOf client).length ≤ 1) :
    (server.leave client).1.tasksOf client = [] := by
  have fewer := length_tasksOf_leave server client
  exact List.length_eq_zero_iff.mp (by omega)

/-- One detection has no order. -/
theorem eq_of_perm_of_length_le_one {tasks others : List Task} (same : others.Perm tasks)
    (few : tasks.length ≤ 1) : others = tasks := by
  cases tasks with
  | nil => exact same.eq_nil
  | cons task rest =>
    have last : rest = [] := by simpa using few
    rw [last] at same ⊢
    exact same.eq_singleton

/-! ## Steps -/

/-- Whether an event reaches the session of a client. -/
def hears (server : Server) (client : Nat) (event : Session.Event) : Bool :=
  event.mayCome server.listening && !server.isDrawing client

section

variable (codec : ImageCodec) (now : String) {session : Session} {event : Session.Event}

theorem step_session_of_not_hears (deaf : server.hears client event = false) :
    server.step codec now (.session client event) = (server, []) := by
  unfold hears at deaf
  simp only [step, deaf, Bool.false_eq_true, if_false]

section

variable (heard : server.hears client event = true)
  (known : server.sessions client = some session)

include heard known

/-- An event that brings no request and does not end the session changes only the session. -/
theorem step_session_of_none (nothing : (session.step event).2 = none)
    (running : (session.step event).1.ended = false) :
    server.step codec now (.session client event) =
      (server.withSession client (session.step event).1, []) := by
  unfold hears at heard
  simp [step, heard, tell_of_some server client known, nothing, isOver, running]

/-- A session that ends leaves no detection behind. -/
theorem step_session_of_ended (nothing : (session.step event).2 = none)
    (finished : (session.step event).1.ended = true) :
    server.step codec now (.session client event) =
      (server.withSession client (session.step event).1).leave client := by
  unfold hears at heard
  simp [step, heard, tell_of_some server client known, nothing, isOver, finished]

/-- A request that an event brings is seen to. -/
theorem step_session_of_some {request : InboundRequest}
    (brings : (session.step event).2 = some request) :
    server.step codec now (.session client event) =
      (server.withSession client (session.step event).1).attend now client request := by
  unfold hears at heard
  simp [step, heard, tell_of_some server client known, brings]

end

/-- All that an event of a client's session can come to. -/
theorem step_session_cases (server : Server) (client : Nat) (event : Session.Event) :
    let next := (server.step codec now (.session client event)).1
    let told := (server.tell client event).1
    next = server ∨ next = told ∨ next = (told.leave client).1 ∨
      ∃ request, next = (told.attend now client request).1 := by
  intro next told
  simp only [next, told, step]
  split
  · rcases server.tell client event with ⟨told, _ | request⟩
    · dsimp only
      split
      · exact .inr (.inr (.inl rfl))
      · exact .inr (.inl rfl)
    · exact .inr (.inr (.inr ⟨request, rfl⟩))
  · exact .inl rfl

/-- The service does nothing about a client that it has not accepted. -/
theorem step_session_of_stranger (stranger : server.sessions client = none)
    (event : Session.Event) : server.step codec now (.session client event) = (server, []) := by
  simp only [step, tell, stranger, isOver]
  split <;> rfl

/-- A client is told what has come of its detection when that is over, and its permit is free. -/
theorem step_released_cases (server : Server) (client : Nat) :
    server.step codec now (.released client) = (server, []) ∨
    ∃ task response, ⟨task, .drawn response⟩ ∈ server.holding ∧ task.client = client ∧
      server.step codec now (.released client) =
        (server.tell client (.telling response)).1.leave client := by
  simp only [step]
  cases found : server.holding.find? fun holder => holder.task.client = client with
  | none => exact .inl rfl
  | some holder =>
    obtain ⟨task, progress⟩ := holder
    have member := List.mem_of_find?_eq_some found
    have own : task.client = client := by simpa using List.find?_some found
    cases progress with
    | calling => exact .inl rfl
    | answered answer => exact .inl rfl
    | drawn response => exact .inr ⟨task, response, member, own, rfl⟩

end

/-! ## Where holders come from -/

section

variable {holder : Holder}

theorem mem_holding_tell {event : Session.Event}
    (member : holder ∈ (server.tell client event).1.holding) : holder ∈ server.holding := by
  unfold tell at member
  split at member <;> exact member

/-- What begins is called. -/
theorem mem_holding_enter {task : Task} (member : holder ∈ (server.enter task).1.holding) :
    holder.progress = .calling ∨ holder ∈ server.holding := by
  unfold enter at member
  split at member
  · rcases List.mem_append.mp member with before | begun
    · exact .inr before
    · exact .inl (by rw [List.mem_singleton.mp begun])
  · exact .inr member
  · rcases List.mem_append.mp member with before | begun
    · exact .inr before
    · exact .inl (by rw [List.mem_singleton.mp begun])

theorem mem_holding_release (member : holder ∈ server.release.1.holding) :
    holder.progress = .calling ∨ holder ∈ server.holding := by
  unfold release at member
  split at member
  · exact .inr member
  · rcases List.mem_append.mp member with before | begun
    · exact .inr before
    · exact .inl (by rw [List.mem_singleton.mp begun])
  · exact .inr member

theorem mem_holding_leave (member : holder ∈ (server.leave client).1.holding) :
    holder.progress = .calling ∨ holder ∈ server.holding := by
  unfold leave at member
  split at member
  · exact (mem_holding_release member).imp_right List.mem_of_mem_eraseP
  · exact .inr member

theorem mem_holding_attend {now : String} {request : InboundRequest}
    (member : holder ∈ (server.attend now client request).1.holding) :
    holder.progress = .calling ∨ holder ∈ server.holding := by
  unfold attend at member
  split at member
  · exact .inr (mem_holding_tell member)
  · exact mem_holding_enter member

/-- A detection is taken further, or it is another client's. -/
theorem mem_holding_proceed {next : Holder → Holder}
    (member : holder ∈ (server.proceed client next).holding) :
    holder ∈ server.holding ∨
      ∃ before ∈ server.holding, before.task.client = client ∧ holder = next before := by
  obtain ⟨before, inside, same⟩ := List.mem_map.mp member
  split at same
  · next own => exact .inr ⟨before, inside, own, same.symm⟩
  · exact .inl (same ▸ inside)

/-- Where a holder comes from that there is after an event: it has begun, or it was there, or it was
there and the event has taken it further. -/
theorem mem_holding_step {codec : ImageCodec} {now : String} {event : ServerEvent}
    (member : holder ∈ (server.step codec now event).1.holding) :
    holder.progress = .calling ∨ holder ∈ server.holding ∨
      ∃ before ∈ server.holding,
        (∃ answer, event = .detected before.task.client answer ∧ holder = before.answer answer) ∨
        holder = before.draw codec server.settings now := by
  cases event with
  | shutdown => exact .inr (.inl member)
  | connected client =>
    simp only [step] at member
    split at member <;> exact .inr (.inl member)
  | detected client answer =>
    refine .inr ((mem_holding_proceed member).imp_right ?_)
    rintro ⟨before, inside, rfl, same⟩
    exact ⟨before, inside, .inl ⟨answer, rfl, same⟩⟩
  | drawn client =>
    refine .inr ((mem_holding_proceed member).imp_right ?_)
    rintro ⟨before, inside, -, same⟩
    exact ⟨before, inside, .inr same⟩
  | released client =>
    rcases step_released_cases codec now server client with same | ⟨task, response, -, -, same⟩
    · rw [same] at member
      exact .inr (.inl member)
    · rw [same] at member
      exact (mem_holding_leave member).imp_right fun told => .inl (mem_holding_tell told)
  | session client event =>
    rcases step_session_cases codec now server client event with
      same | same | same | ⟨request, same⟩
    · exact .inr (.inl (same ▸ member))
    · exact .inr (.inl (mem_holding_tell (same ▸ member)))
    · rw [same] at member
      exact (mem_holding_leave member).imp_right fun told => .inl (mem_holding_tell told)
    · rw [same] at member
      exact (mem_holding_attend member).imp_right fun told => .inl (mem_holding_tell told)

end

/-! ## What a step leaves as it is -/

theorem sessions_attend_of_ne {other : Nat} (apart : client ≠ other) (server : Server)
    (now : String) (request : InboundRequest) :
    (server.attend now other request).1.sessions client = server.sessions client := by
  unfold attend
  split
  · exact sessions_tell_of_ne server other client apart _
  · rw [sessions_enter]

theorem tasksOf_attend_of_ne {other : Nat} (apart : client ≠ other) (server : Server)
    (now : String) (request : InboundRequest) :
    ((server.attend now other request).1.tasksOf client).Perm (server.tasksOf client) := by
  unfold attend
  split
  · rw [tasksOf_tell]
  · next image requestTimestamp _ =>
    have entered := server.tasksOf_enter ⟨other, image, requestTimestamp⟩ client
    simpa [apart.symm] using entered

/-- What happens to one client leaves the sessions and the detections of all others. -/
theorem step_of_ne {event : ServerEvent} (apart : event.client? ≠ some client)
    (codec : ImageCodec) (now : String) (server : Server) :
    (server.step codec now event).1.sessions client = server.sessions client ∧
      ((server.step codec now event).1.tasksOf client).Perm (server.tasksOf client) := by
  cases event with
  | shutdown => exact ⟨rfl, .refl _⟩
  | connected other =>
    have different : client ≠ other := fun same => apart (same ▸ rfl)
    simp only [step]
    split
    · exact ⟨sessions_withSession_of_ne _ other client different _, .refl _⟩
    · exact ⟨rfl, .refl _⟩
  | detected other answer =>
    refine ⟨rfl, .of_eq ?_⟩
    rw [tasksOf, step, tasks_proceed _ _ _ (Holder.task_answer answer), tasksOf]
  | drawn other =>
    refine ⟨rfl, .of_eq ?_⟩
    rw [tasksOf, step, tasks_proceed _ _ _ (Holder.task_draw codec _ now), tasksOf]
  | released other =>
    have different : client ≠ other := fun same => apart (same ▸ rfl)
    rcases step_released_cases codec now server other with same | ⟨task, response, -, -, same⟩
    · rw [same]
      exact ⟨rfl, .refl _⟩
    · have sameTasks := tasksOf_tell server other client (.telling response)
      rw [same, sessions_leave, ← sameTasks]
      exact ⟨sessions_tell_of_ne server other client different _, tasksOf_leave_of_ne different⟩
  | session other event =>
    have different : client ≠ other := fun same => apart (same ▸ rfl)
    have sameSession := sessions_tell_of_ne server other client different event
    have sameTasks := tasksOf_tell server other client event
    rcases step_session_cases codec now server other event with
      same | same | same | ⟨request, same⟩
    · rw [same]
      exact ⟨rfl, .refl _⟩
    · rw [same, sameTasks]
      exact ⟨sameSession, .refl _⟩
    · rw [same, sessions_leave, ← sameTasks]
      exact ⟨sameSession, tasksOf_leave_of_ne different⟩
    · rw [same, ← sameSession, ← sameTasks]
      exact ⟨sessions_attend_of_ne different _ now request,
        tasksOf_attend_of_ne different _ now request⟩

theorem settings_attend (server : Server) (now : String) (client : Nat)
    (request : InboundRequest) :
    (server.attend now client request).1.settings = server.settings := by
  unfold attend
  split
  · exact settings_tell server client _
  · exact settings_enter server _

/-- A service keeps its settings. -/
theorem settings_step (codec : ImageCodec) (now : String) (server : Server)
    (event : ServerEvent) : (server.step codec now event).1.settings = server.settings := by
  cases event with
  | shutdown => rfl
  | detected client answer => rfl
  | drawn client => rfl
  | connected client =>
    simp only [step]
    split <;> rfl
  | released client =>
    rcases step_released_cases codec now server client with
      same | ⟨task, response, -, -, same⟩
    · rw [same]
    · rw [same, settings_leave, settings_tell]
  | session client event =>
    have told := settings_tell server client event
    rcases step_session_cases codec now server client event with
      same | same | same | ⟨request, same⟩
    · rw [same]
    · rw [same, told]
    · rw [same, settings_leave, told]
    · rw [same, settings_attend, told]

end Server

end FrameCourier.Service
