import FrameCourier.Proofs.Service.Awaiting
import Mathlib.Data.List.Induction
import Mathlib.Data.List.Nodup

/-!
# Permits

A service that limits its detections neither makes permits nor loses them.  However clients come,
are answered and are lost, every permit is free or belongs to a detection for a request in flight,
and no detection waits while a permit is free.  A detection has its permit while the detector is
called, while the response is made of the answer, and until its client is told; a call of the
detector is under way for no other detection.  So no more calls are under way than there are
permits, and when all requests are over, all permits are free again.
-/

namespace FrameCourier.Service

open Picture

/-- Whether an event is the detector's answer for a client. -/
def ServerEvent.answers (event : ServerEvent) (client : Nat) : Bool :=
  match event with
  | .detected other _ => other = client
  | _ => false

/-- What the detector is called for on behalf of a holder. -/
def Holder.call? (holder : Holder) : Option Task :=
  match holder.progress with
  | .calling => some holder.task
  | _ => none

namespace Server

variable {server : Server} {limit : Nat} {client other : Nat}

/-! ## Free permits and held ones -/

/-- Every permit is free or held, and nothing waits while one is free. -/
def Balanced (limit : Nat) (server : Server) : Prop :=
  ∃ free, server.free = some free ∧ free + server.holding.length = limit ∧
    (server.waiting ≠ [] → free = 0)

theorem Balanced.tell (balanced : server.Balanced limit) (client : Nat) (event : Session.Event) :
    (server.tell client event).1.Balanced limit := by
  unfold Server.tell
  split
  · exact balanced
  · exact balanced

/-- A detection takes a free permit, and waits if there is none. -/
theorem Balanced.enter (balanced : server.Balanced limit) (task : Task) :
    (server.enter task).1.Balanced limit := by
  obtain ⟨free, known, total, busy⟩ := balanced
  unfold Server.enter
  cases free with
  | zero =>
    simp only [known]
    exact ⟨0, rfl, total, fun _ => rfl⟩
  | succ free =>
    simp only [known]
    refine ⟨free, rfl, ?_, fun waits => absurd (busy waits) (Nat.succ_ne_zero free)⟩
    rw [List.length_append, List.length_singleton]
    omega

/-- A permit that nobody accounts for is taken by what waits longest, or it is free. -/
theorem balanced_release {free : Nat} (known : server.free = some free)
    (missing : free + server.holding.length + 1 = limit) (busy : server.waiting ≠ [] → free = 0) :
    server.release.1.Balanced limit := by
  unfold release
  cases waits : server.waiting with
  | nil =>
    simp only [known]
    exact ⟨free + 1, rfl, by simp only; omega, by simp⟩
  | cons task rest =>
    have none : free = 0 := busy (by simp [waits])
    simp only [known]
    refine ⟨free, rfl, ?_, fun _ => none⟩
    simp only [List.length_append, List.length_singleton]
    omega

/-- A detection that ends gives its permit back if it has one. -/
theorem Balanced.leave (balanced : server.Balanced limit) (client : Nat) :
    (server.leave client).1.Balanced limit := by
  obtain ⟨free, known, total, busy⟩ := balanced
  unfold Server.leave
  split
  · next holds =>
    obtain ⟨holder, member, own⟩ := List.any_eq_true.mp holds
    have fewer : (server.holding.eraseP fun holder => holder.task.client = client).length =
        server.holding.length - 1 := List.length_eraseP_of_mem member own
    have some := List.length_pos_of_mem member
    refine balanced_release known ?_ busy
    simp only [fewer]
    omega
  · refine ⟨free, known, total, fun waits => busy fun nothing => waits ?_⟩
    rw [nothing]
    rfl

theorem Balanced.attend (balanced : server.Balanced limit) (now : String) (client : Nat)
    (request : InboundRequest) : (server.attend now client request).1.Balanced limit := by
  unfold Server.attend
  split
  · exact balanced.tell client _
  · exact balanced.enter _

/-- A detection that gets further keeps its permit. -/
theorem Balanced.proceed (balanced : server.Balanced limit) (client : Nat)
    (next : Holder → Holder) : (server.proceed client next).Balanced limit := by
  obtain ⟨free, known, total, busy⟩ := balanced
  exact ⟨free, known, by rw [Server.proceed, List.length_map, total], busy⟩

/-- No event makes a permit or loses one. -/
theorem Balanced.step (balanced : server.Balanced limit) (codec : ImageCodec) (now : String)
    (event : ServerEvent) : (server.step codec now event).1.Balanced limit := by
  cases event with
  | shutdown => exact balanced
  | connected client =>
    simp only [Server.step]
    split
    · exact balanced
    · exact balanced
  | detected client answer => exact balanced.proceed client _
  | drawn client => exact balanced.proceed client _
  | released client =>
    rcases step_released_cases codec now server client with same | ⟨task, response, -, -, same⟩
    · rw [same]
      exact balanced
    · rw [same]
      exact (balanced.tell client _).leave client
  | session client event =>
    have told := balanced.tell client event
    rcases step_session_cases codec now server client event with
      same | same | same | ⟨request, same⟩
    · rw [same]
      exact balanced
    · rw [same]
      exact told
    · rw [same]
      exact told.leave client
    · rw [same]
      exact told.attend now client request

/-! ## Calls of the detector -/

/-- The detections for which the detector is called. -/
def calling (server : Server) : List Task := server.holding.filterMap Holder.call?

theorem mem_calling {task : Task} : task ∈ server.calling ↔ ⟨task, .calling⟩ ∈ server.holding := by
  rw [calling, List.mem_filterMap]
  constructor
  · intro called
    obtain ⟨⟨other, progress⟩, held, isCalled⟩ := called
    cases progress with
    | calling =>
      cases isCalled
      exact held
    | answered answer => cases isCalled
    | drawn response => cases isCalled
  · exact fun held => ⟨_, held, rfl⟩

theorem holding_tell (client : Nat) (event : Session.Event) :
    (server.tell client event).1.holding = server.holding := by
  unfold tell
  split <;> rfl

theorem calling_tell (client : Nat) (event : Session.Event) :
    (server.tell client event).1.calling = server.calling := by
  rw [calling, holding_tell, calling]

/-- What begins is called from then on. -/
theorem calling_enter (server : Server) (task : Task) :
    (server.enter task).1.calling = server.calling ++ (server.enter task).2 := by
  unfold enter calling
  split <;> simp [Holder.call?]

theorem calling_release (server : Server) :
    server.release.1.calling = server.calling ++ server.release.2 := by
  unfold release calling
  split <;> simp [Holder.call?]

theorem calling_attend (server : Server) (now : String) (client : Nat)
    (request : InboundRequest) :
    (server.attend now client request).1.calling =
      server.calling ++ (server.attend now client request).2 := by
  unfold attend
  split
  · simp [calling_tell]
  · exact calling_enter ..

/-- Who has one detection at most has none when it is taken out. -/
theorem eraseP_eq_filter {holders : List Holder}
    (few : (holders.filter fun holder => holder.task.client = client).length ≤ 1) :
    (holders.eraseP fun holder => holder.task.client = client) =
      holders.filter fun holder => holder.task.client ≠ client := by
  induction holders with
  | nil => rfl
  | cons holder holders ih =>
    by_cases own : holder.task.client = client
    · have none : holders.filter (fun holder => holder.task.client = client) = [] := by
        simpa [own] using few
      have others : holders.filter (fun holder => holder.task.client ≠ client) = holders :=
        List.filter_eq_self.mpr (by simpa using none)
      rw [List.eraseP_cons_of_pos (by simpa using own), List.filter_cons_of_neg (by simpa using own),
        others]
    · have rest := ih (by simpa [own] using few)
      simpa [own] using rest

/-- The calls for all clients but one. -/
theorem filterMap_filter_ne (holders : List Holder) (client : Nat) :
    (holders.filter fun holder => holder.task.client ≠ client).filterMap Holder.call? =
      (holders.filterMap Holder.call?).filter fun task => task.client ≠ client := by
  rw [List.filterMap_filter, List.filter_filterMap]
  refine List.filterMap_congr fun holder _ => ?_
  obtain ⟨task, progress⟩ := holder
  by_cases own : task.client = client
  · cases progress <;> simp [own, Holder.call?, Option.filter]
  · cases progress <;> simp [own, Holder.call?, Option.filter]

/-- A client that leaves is called for no longer. -/
theorem calling_leave
    (few : (server.holding.filter fun holder => holder.task.client = client).length ≤ 1) :
    (server.leave client).1.calling =
      (server.calling.filter fun task => task.client ≠ client) ++ (server.leave client).2 := by
  unfold leave
  split
  · rw [calling_release]
    simp only [calling, eraseP_eq_filter few, filterMap_filter_ne]
  · next none =>
    have same : server.holding.filter (fun holder => holder.task.client ≠ client) =
        server.holding := List.filter_eq_self.mpr (by simpa using none)
    have kept := filterMap_filter_ne server.holding client
    rw [same] at kept
    simpa [calling] using kept

/-- A client for which the detector has answered is called for no longer. -/
theorem calling_answer (server : Server) (client : Nat)
    (answer : Except DetectorFault (List Detection)) :
    (server.proceed client (.answer answer)).calling =
      server.calling.filter fun task => task.client ≠ client := by
  unfold calling proceed
  rw [List.filterMap_map, List.filter_filterMap]
  refine List.filterMap_congr fun holder _ => ?_
  obtain ⟨task, progress⟩ := holder
  by_cases own : task.client = client
  · cases progress <;> simp [own, Holder.call?, Holder.answer, Option.filter]
  · cases progress <;> simp [own, Holder.call?, Option.filter]

/-- The making of a response begins and ends no call. -/
theorem calling_draw (server : Server) (codec : ImageCodec) (settings : DetectionSettings)
    (now : String) (client : Nat) :
    (server.proceed client (.draw codec settings now)).calling = server.calling := by
  unfold calling proceed
  rw [List.filterMap_map]
  refine List.filterMap_congr fun holder _ => ?_
  obtain ⟨task, progress⟩ := holder
  by_cases own : task.client = client
  · cases progress <;> simp [own, Holder.call?, Holder.draw]
  · simp [own]

/-- Whether the session of a client goes on. -/
def isLive (server : Server) (client : Nat) : Bool :=
  (server.sessions client).any fun session => !session.ended

/-- The calls of the detector that are under way after an event: of those before it the ones that it
does not answer and whose sessions go on, and the ones that begin. -/
def callsAfter (codec : ImageCodec) (now : String) (server : Server) (calls : List Task)
    (event : ServerEvent) : List Task :=
  let (next, begun) := server.step codec now event
  (calls.filter fun call => !event.answers call.client && next.isLive call.client) ++ begun

theorem isLive_withSession_of_ended {session : Session} (ended : session.ended = true) :
    (server.withSession client session).isLive client = false := by
  simp [isLive, ended]

theorem isLive_leave (server : Server) (client other : Nat) :
    (server.leave client).1.isLive other = server.isLive other := by
  rw [isLive, sessions_leave, isLive]

section

variable (accounts : ∀ client, server.Accounts client)

include accounts

/-- No client holds two permits. -/
theorem length_holding_le (client : Nat) :
    (server.holding.filter fun holder => holder.task.client = client).length ≤ 1 := by
  have few := Accounted.length_le (accounts client)
  rw [tasksOf, tasks, List.filter_append, List.length_append, List.filter_map, List.length_map] at few
  exact Nat.le_trans (Nat.le_add_left _ _) few

theorem eq_of_mem_holding {holder another : Holder} (held : holder ∈ server.holding)
    (alsoHeld : another ∈ server.holding) (same : holder.task.client = another.task.client) :
    holder = another := by
  have few := length_holding_le accounts another.task.client
  have first : holder ∈ server.holding.filter fun held => held.task.client = another.task.client :=
    List.mem_filter.mpr ⟨held, by simpa using same⟩
  have second : another ∈ server.holding.filter
      fun held => held.task.client = another.task.client :=
    List.mem_filter.mpr ⟨alsoHeld, by simp⟩
  generalize server.holding.filter _ = own at few first second
  match own, few with
  | [], _ => cases first
  | [only], _ => rw [List.mem_singleton.mp first, List.mem_singleton.mp second]

/-- A client for which the detector is called goes on. -/
theorem isLive_of_mem {task : Task} (called : task ∈ server.calling) :
    server.isLive task.client = true := by
  obtain ⟨session, request, known, asked⟩ := Accounts.of_holding accounts (mem_calling.mp called)
  simp [isLive, known, Session.ended_of_inFlight asked]

/-- An event ends no call but one that it answers or that a session leaves by ending, and what begins
is behind the others. -/
theorem calling_step (codec : ImageCodec) (now : String) (event : ServerEvent) :
    ((server.step codec now event).1.calling =
        server.calling ++ (server.step codec now event).2 ∧
      ∀ task ∈ server.calling, event.answers task.client = false) ∨
    ∃ client, (server.step codec now event).1.calling =
        (server.calling.filter fun task => task.client ≠ client) ++
          (server.step codec now event).2 ∧
      (∀ task ∈ server.calling, task.client = client →
        event.answers client = true ∨ (server.step codec now event).1.isLive client = false) ∧
      ∀ other, other ≠ client → event.answers other = false := by
  cases event with
  | shutdown => exact .inl ⟨by simp [step, calling], fun _ _ => rfl⟩
  | connected client =>
    refine .inl ⟨?_, fun _ _ => rfl⟩
    simp only [step]
    split <;> simp [withSession, calling]
  | drawn client =>
    refine .inl ⟨?_, fun _ _ => rfl⟩
    simp only [step, calling_draw, List.append_nil]
  | detected client answer =>
    refine .inr ⟨client, ?_, fun _ _ _ => .inl (by simp [ServerEvent.answers]), ?_⟩
    · simp only [step, calling_answer, List.append_nil]
    · intro other apart
      simp [ServerEvent.answers, apart.symm]
  | released client =>
    rcases step_released_cases codec now server client with same | ⟨task, response, held, own, same⟩
    · exact .inl ⟨by simp [same], fun _ _ => rfl⟩
    · refine .inr ⟨client, ?_, fun called member isIts => ?_, fun _ _ => rfl⟩
      · have few : ((server.tell client (.telling response)).1.holding.filter
            fun holder => holder.task.client = client).length ≤ 1 := by
          rw [holding_tell]
          exact length_holding_le accounts client
        rw [same, calling_leave few, calling_tell]
      · -- What is over is not called for, and the client has nothing else.
        have calls := mem_calling.mp member
        cases eq_of_mem_holding accounts calls held (isIts.trans own.symm)
  | session client event =>
    cases known : server.sessions client with
    | none =>
      exact .inl ⟨by simp [step_session_of_stranger codec now known], fun _ _ => rfl⟩
    | some session =>
      cases heard : server.hears client event with
      | false => exact .inl ⟨by simp [step_session_of_not_hears codec now heard], fun _ _ => rfl⟩
      | true =>
        cases brings : (session.step event).2 with
        | some request =>
          refine .inl ⟨?_, fun _ _ => rfl⟩
          rw [step_session_of_some codec now heard known brings, calling_attend]
          rfl
        | none =>
          cases finished : (session.step event).1.ended with
          | false =>
            refine .inl ⟨?_, fun _ _ => rfl⟩
            rw [step_session_of_none codec now heard known brings finished, List.append_nil]
            rfl
          | true =>
            rw [step_session_of_ended codec now heard known brings finished]
            refine .inr ⟨client, calling_leave (length_holding_le accounts client), ?_,
              fun _ _ => rfl⟩
            intro task _ _
            rw [isLive_leave]
            exact .inr (isLive_withSession_of_ended finished)

/-- The calls under way are always those of detections that hold a permit. -/
theorem callsAfter_calling (codec : ImageCodec) (now : String) (event : ServerEvent) :
    server.callsAfter codec now server.calling event = (server.step codec now event).1.calling := by
  have after : ∀ client, (server.step codec now event).1.Accounts client :=
    fun client => (accounts client).step codec now event
  unfold callsAfter
  rcases calling_step accounts codec now event with
    ⟨calling, unanswered⟩ | ⟨client, calling, ended, others⟩
  · have all : server.calling.filter (fun call => !event.answers call.client &&
        (server.step codec now event).1.isLive call.client) = server.calling := by
      refine List.filter_eq_self.mpr fun task member => ?_
      have live := isLive_of_mem after (calling ▸ List.mem_append_left _ member)
      simp [unanswered task member, live]
    simp only [all, calling]
  · have left : server.calling.filter (fun call => !event.answers call.client &&
        (server.step codec now event).1.isLive call.client) =
        server.calling.filter fun task => task.client ≠ client := by
      refine List.filter_congr fun task member => ?_
      by_cases own : task.client = client
      · rcases ended task member own with answered | gone
        · simp [own, answered]
        · simp [own, gone]
      · have stays : task ∈ (server.step codec now event).1.calling :=
          calling ▸ List.mem_append_left _ (List.mem_filter.mpr ⟨member, by simpa using own⟩)
        simp [own, others _ own, isLive_of_mem after stays]
    simp only [left, calling]

end

/-! ## From the answer to the permit -/

section

variable (accounts : ∀ client, server.Accounts client) (codec : ImageCodec)

include accounts

/-- A detection that is over leaves when its client is told. -/
theorem step_released_of_drawn (now : String) {task : Task} {response : Option Wire.Response}
    (held : ⟨task, .drawn response⟩ ∈ server.holding) :
    server.step codec now (.released task.client) =
      (server.tell task.client (.telling response)).1.leave task.client := by
  simp only [step]
  cases found : server.holding.find? fun holder => holder.task.client = task.client with
  | none => exact absurd (List.find?_eq_none.mp found _ held) (by simp)
  | some holder =>
    have same : holder.task.client = task.client := by simpa using List.find?_some found
    have only := eq_of_mem_holding accounts (List.mem_of_find?_eq_some found) held same
    cases only
    rfl

/-- A detection keeps its permit when the detector answers and when the response is made, whatever
the answer is and whether or not the making crashes; with the third step it has none. -/
theorem tasksOf_released {task : Task} (called : task ∈ server.calling)
    (answer : Except DetectorFault (List Detection)) (first second third : String) :
    let answered := (server.step codec first (.detected task.client answer)).1
    let drawn := (answered.step codec second (.drawn task.client)).1
    task ∈ answered.holding.map Holder.task ∧ task ∈ drawn.holding.map Holder.task ∧
      (drawn.step codec third (.released task.client)).1.tasksOf task.client = [] := by
  intro answered drawn
  have held := mem_calling.mp called
  have isAnswered : ⟨task, .answered answer⟩ ∈ answered.holding :=
    List.mem_map.mpr ⟨_, held, by simp [Holder.answer]⟩
  have isDrawn : ⟨task, .drawn (respond codec answered.settings second task.image
      task.requestTimestamp answer)⟩ ∈ drawn.holding :=
    List.mem_map.mpr ⟨_, isAnswered, by simp [Holder.draw]⟩
  have accountsDrawn : ∀ client, drawn.Accounts client := fun client =>
    ((accounts client).step codec first _).step codec second _
  refine ⟨List.mem_map_of_mem isAnswered, List.mem_map_of_mem isDrawn, ?_⟩
  rw [step_released_of_drawn accountsDrawn codec third isDrawn]
  refine tasksOf_leave_eq_nil ?_
  rw [tasksOf_tell]
  exact Accounted.length_le (accountsDrawn task.client)

end

/-! ## Runs -/

/-- The service and the calls under way after several events, each at its time. -/
def course (codec : ImageCodec) (settings : DetectionSettings)
    (moments : List (String × ServerEvent)) : Server × List Task :=
  moments.foldl (fun (server, calls) (now, event) =>
    ((server.step codec now event).1, server.callsAfter codec now calls event))
    (.start settings, [])

/-- How the permits of a service stand with its requests and with the calls under way. -/
structure PermitsKept (limit free : Nat) (server : Server) (calls : List Task) : Prop where
  known : server.free = some free
  /-- A permit is free, or a detection holds it. -/
  total : free + server.holding.length = limit
  /-- A call is under way for every detection that holds a permit and has no answer yet, and for no
  other. -/
  called : calls = server.calling
  few : calls.length ≤ limit
  /-- A detection waits only if no permit is free. -/
  busy : server.waiting ≠ [] → free = 0
  /-- What waits or holds a permit is what a request in flight needs. -/
  needed : ∀ task ∈ server.tasks, ∃ session request,
    server.sessions task.client = some session ∧ session.ended = false ∧
      session.inFlight = some request ∧
      plan request = .detect task.image task.requestTimestamp
  /-- No request needs two permits. -/
  distinct : (server.tasks.map Task.client).Nodup
  /-- A request in flight waits or holds a permit. -/
  attended : ∀ client session request, server.sessions client = some session →
    session.inFlight = some request → ∃ task ∈ server.tasks, task.client = client
  /-- When no request is in flight, all permits are free. -/
  returned : (∀ client session, server.sessions client = some session →
    session.inFlight = none) → free = limit ∧ server.waiting = []

section

variable (accounts : ∀ client, server.Accounts client)

include accounts

theorem distinct_clients : (server.tasks.map Task.client).Nodup := by
  refine List.nodup_iff_count_le_one.mpr fun client => ?_
  have one := Accounted.length_le (accounts client)
  rw [tasksOf, ← List.countP_eq_length_filter] at one
  rw [List.count, List.countP_map]
  simpa [Function.comp_def, beq_eq_decide] using one

/-- Permits that are balanced among accounted clients are kept. -/
theorem exists_permitsKept (balanced : server.Balanced limit) :
    ∃ free, PermitsKept limit free server server.calling := by
  obtain ⟨free, known, total, busy⟩ := balanced
  have calls : server.calling.length ≤ server.holding.length := List.length_filterMap_le ..
  have needed : ∀ task ∈ server.tasks, ∃ session request,
      server.sessions task.client = some session ∧ session.inFlight = some request ∧
        plan request = .detect task.image task.requestTimestamp := fun task member =>
    Accounted.of_mem (accounts task.client) (mem_tasksOf member)
  refine ⟨free, known, total, rfl, by omega, busy, fun task member => ?_,
    distinct_clients accounts, fun client session request accepted asked => ?_, fun finished => ?_⟩
  · obtain ⟨session, request, accepted, asked, planned⟩ := needed task member
    exact ⟨session, request, accepted, Session.ended_of_inFlight asked, asked, planned⟩
  · have own := accounts client
    unfold Accounts at own
    rw [accepted] at own
    generalize held : server.tasksOf client = tasks at own
    cases own with
    | idle keeps nothing =>
      rw [nothing] at asked
      cases asked
    | detecting keeps asked planned =>
      have member := List.mem_filter.mp (held ▸ List.mem_singleton_self _)
      exact ⟨_, member.1, rfl⟩
  · have none : server.tasks = [] := by
      refine List.eq_nil_iff_forall_not_mem.mpr fun task member => ?_
      obtain ⟨session, request, accepted, asked, -⟩ := needed task member
      have nothing := finished _ _ accepted
      rw [asked] at nothing
      cases nothing
    obtain ⟨noneWaits, noneHolds⟩ := List.append_eq_nil_iff.mp none
    rw [List.map_eq_nil_iff.mp noneHolds] at total
    exact ⟨total, noneWaits⟩

end

section

variable {codec : ImageCodec} {settings : DetectionSettings}

theorem balanced_start {limit : Nat} (limited : settings.maxConcurrentDetections = some limit) :
    (start settings).Balanced (max limit 1) :=
  ⟨max limit 1, by simp [start, DetectionSettings.permits, limited, Nat.max_comm], rfl,
    fun waits => absurd rfl waits⟩

/-- In a service that limits its detections, permits are kept whatever happens. -/
theorem permitsKept_course {limit : Nat}
    (limited : settings.maxConcurrentDetections = some limit)
    (moments : List (String × ServerEvent)) :
    ∃ free, PermitsKept (max limit 1) free (course codec settings moments).1
      (course codec settings moments).2 := by
  have kept : (course codec settings moments).1.Balanced (max limit 1) ∧
      (∀ client, (course codec settings moments).1.Accounts client) ∧
      (course codec settings moments).2 = (course codec settings moments).1.calling := by
    induction moments using List.reverseRecOn with
    | nil => exact ⟨balanced_start limited, fun _ => .stranger, rfl⟩
    | append_singleton moments moment ih =>
      obtain ⟨balanced, accounts, same⟩ := ih
      obtain ⟨now, event⟩ := moment
      simp only [course, List.foldl_append, List.foldl_cons, List.foldl_nil] at balanced accounts same ⊢
      refine ⟨balanced.step codec now event, fun client => (accounts client).step codec now event, ?_⟩
      rw [same]
      exact callsAfter_calling accounts codec now event
  rw [kept.2.2]
  exact exists_permitsKept kept.2.1 kept.1

end

/-- No detections at a time, which is one. -/
def noneAtATime : DetectionSettings := ⟨true, some 0, 90⟩

/-- Three clients send an image each; of the first two, one is lost while its detection waits, and
the other one while the detector is called for it. -/
def threeClients : List (String × ServerEvent) :=
  [("1", .connected 1), ("1", .connected 2), ("1", .connected 3),
    ("2", .session 1 (.chunk ([0xFF] ++ Wire.endMarker))),
    ("3", .session 2 (.chunk ([0xFE] ++ Wire.endMarker))),
    ("4", .session 3 (.chunk ([0xFD] ++ Wire.endMarker))),
    ("5", .session 2 .readFailed), ("6", .session 1 .readFailed)]

/-- What becomes of the third client's image. -/
def thirdFails : List (String × ServerEvent) :=
  [("7", .detected 3 (.error (.undecodable "unknown image"))), ("8", .drawn 3), ("9", .released 3)]

/-- The third client has the permit.  It has it still when the detector has failed it, and when it
is told so, nobody has. -/
theorem permitsKept_course_threeClients :
    PermitsKept 1 0 (course (.pixmaps fun _ _ => []) noneAtATime threeClients).1
      [⟨3, [0xFD], none⟩] ∧
    PermitsKept 1 0
      (course (.pixmaps fun _ _ => []) noneAtATime (threeClients ++ thirdFails.take 2)).1 [] ∧
    PermitsKept 1 1 (course (.pixmaps fun _ _ => []) noneAtATime (threeClients ++ thirdFails)).1
      [] := by
  have limited : noneAtATime.maxConcurrentDetections = some 0 := rfl
  have kept : ∀ moments free calls,
      (course (.pixmaps fun _ _ => []) noneAtATime moments).1.free = some free →
      (course (.pixmaps fun _ _ => []) noneAtATime moments).2 = calls →
      PermitsKept 1 free (course (.pixmaps fun _ _ => []) noneAtATime moments).1 calls := by
    intro moments free calls known called
    obtain ⟨same, kept⟩ :=
      @permitsKept_course (.pixmaps fun _ _ => []) noneAtATime 0 limited moments
    rw [kept.known] at known
    cases known
    rwa [called] at kept
  exact ⟨kept _ _ _ (by decide +kernel) (by decide +kernel),
    kept _ _ _ (by decide +kernel) (by decide +kernel),
    kept _ _ _ (by decide +kernel) (by decide +kernel)⟩

end Server

end FrameCourier.Service
