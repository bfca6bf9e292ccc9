import FrameCourier.Proofs.Dispatch.Overlap

/-!
# Dispatch one at a time

One at a time, a dispatch has only one course: a call, its end, a pause, and so on to the end of
the last call, whatever the calls come to.  Its job holds what every call came to.  A dispatch in
batches has the same job if no call fails.
-/

namespace FrameCourier.Dispatch

variable {assigned : Frame → Outcome} {policy : Policy} {milliseconds size : Nat}
  {frames : List Frame} {seen : List Occurrence} {state : State} {due : List Act}

/-! ## What every frame leaves in a job -/

/-- The job that holds what the call for each frame came to. -/
def attempted (assigned : Frame → Outcome) (frames : List Frame) : Job :=
  ⟨frames.map fun frame => slotOf (assigned frame)⟩

theorem recorded_nil (assigned : Frame → Outcome) (frames : List Frame) :
    recorded assigned frames [] = attempted assigned frames := by
  simp [recorded, attempted]

theorem isDone_attempted (assigned : Frame → Outcome) (frames : List Frame) :
    (attempted assigned frames).isDone = true := by
  simp [attempted, Job.isDone, isPending_slotOf]

/-- The slot of a frame has its number. -/
theorem slot?_attempted (numbered : IsNumbered frames) {frame : Frame}
    (member : frame ∈ frames) :
    (attempted assigned frames).slot? frame.index = some (slotOf (assigned frame)) := by
  have nonzero := index_ne_zero_of_mem numbered member
  obtain ⟨before, later, rfl⟩ := List.append_of_mem member
  have place := index_append numbered
  simp [attempted, Job.slot?, nonzero, place]

/-! ## The course of a dispatch -/

/-- What a dispatch does. -/
def Occurrence.act? : Occurrence → Option Act
  | did act => some act
  | heard _ => none

/-- What a dispatch has done, in its order. -/
def acts (seen : List Occurrence) : List Act := seen.filterMap Occurrence.act?

/-- The call for a frame, and its end. -/
def turn (assigned : Frame → Outcome) (frame : Frame) : List Occurrence :=
  [.did (.call frame), .heard (.ended frame.index (assigned frame))]

/-- A pause, and its end. -/
def rest (milliseconds : Nat) : List Occurrence := [.did (.pause milliseconds), .heard .resumed]

/-- The calls for frames one after the other, with a pause between two. -/
def alternation (milliseconds : Nat) (assigned : Frame → Outcome) : List Frame → List Occurrence
  | [] => []
  | [frame] => turn assigned frame
  | frame :: next :: later =>
    turn assigned frame ++ rest milliseconds ++ alternation milliseconds assigned (next :: later)

/-- The calls for frames with a pause after each. -/
def behind (milliseconds : Nat) (assigned : Frame → Outcome) (done : List Frame) :
    List Occurrence :=
  done.flatMap fun frame => turn assigned frame ++ rest milliseconds

theorem behind_append (done : List Frame) (frame : Frame) :
    behind milliseconds assigned (done ++ [frame]) =
      behind milliseconds assigned done ++ (turn assigned frame ++ rest milliseconds) := by
  simp [behind]

/-- With frames left, those that are behind have had their calls and pauses. -/
theorem alternation_append (milliseconds : Nat) (assigned : Frame → Outcome) (done : List Frame)
    (frame : Frame) (later : List Frame) :
    alternation milliseconds assigned (done ++ frame :: later) =
      behind milliseconds assigned done ++ alternation milliseconds assigned (frame :: later) := by
  induction done with
  | nil => rfl
  | cons first done ih =>
    obtain ⟨next, others, same⟩ := List.exists_cons_of_ne_nil
      (List.append_ne_nil_of_right_ne_nil done (List.cons_ne_nil frame later))
    rw [List.cons_append, same, alternation, ← same, ih]
    simp [behind]

/-- The acts are the calls, with a pause between two. -/
theorem acts_alternation (milliseconds : Nat) (assigned : Frame → Outcome) (frames : List Frame) :
    acts (alternation milliseconds assigned frames) =
      (frames.map Act.call).intersperse (.pause milliseconds) := by
  fun_induction alternation milliseconds assigned frames with
  | case1 => rfl
  | case2 frame => rfl
  | case3 frame next later ih =>
    have course : acts (turn assigned frame ++ rest milliseconds ++
        alternation milliseconds assigned (next :: later)) =
        .call frame :: .pause milliseconds ::
          acts (alternation milliseconds assigned (next :: later)) := rfl
    rw [course, ih]
    rfl

theorem called_alternation (milliseconds : Nat) (assigned : Frame → Outcome)
    (frames : List Frame) : called (alternation milliseconds assigned frames) = frames := by
  fun_induction alternation milliseconds assigned frames with
  | case1 => rfl
  | case2 frame => rfl
  | case3 frame next later ih =>
    have course : called (turn assigned frame ++ rest milliseconds ++
        alternation milliseconds assigned (next :: later)) =
        frame :: called (alternation milliseconds assigned (next :: later)) := rfl
    rw [course, ih]

theorem paused_alternation (milliseconds : Nat) (assigned : Frame → Outcome)
    (frames : List Frame) :
    paused (alternation milliseconds assigned frames) = frames.length - 1 := by
  fun_induction alternation milliseconds assigned frames with
  | case1 => rfl
  | case2 frame => rfl
  | case3 frame next later ih =>
    have course : paused (turn assigned frame ++ rest milliseconds ++
        alternation milliseconds assigned (next :: later)) =
        paused (alternation milliseconds assigned (next :: later)) + 1 := by
      simp [paused, turn, rest]
    rw [course, ih]
    simp

theorem length_alternation_le (milliseconds : Nat) (assigned : Frame → Outcome)
    (frames : List Frame) :
    (alternation milliseconds assigned frames).length ≤ 4 * frames.length := by
  fun_induction alternation milliseconds assigned frames with
  | case1 => exact Nat.le_refl 0
  | case2 frame => simp [turn]
  | case3 frame next later ih =>
    simp only [List.length_append, List.length_cons, turn, rest, List.length_nil] at ih ⊢
    omega

/-! ## Nothing under way -/

/-- All that has begun has ended. -/
structure Quiet (seen : List Occurrence) : Prop where
  calls : ended seen = begun seen
  pauses : resumed seen = paused seen

theorem quiet_nil : Quiet [] := ⟨rfl, rfl⟩

theorem Quiet.append {more : List Occurrence} (quiet : Quiet seen) (quietToo : Quiet more) :
    Quiet (seen ++ more) := by
  constructor
  · have first := quiet.calls
    have second := quietToo.calls
    simp only [ended, begun, called] at first second ⊢
    simp [List.filterMap_append, first, second]
  · have first := quiet.pauses
    have second := quietToo.pauses
    simp only [resumed, paused] at first second ⊢
    simp [List.countP_append, first, second]

theorem quiet_turn (assigned : Frame → Outcome) (frame : Frame) : Quiet (turn assigned frame) :=
  ⟨rfl, rfl⟩

theorem quiet_rest (milliseconds : Nat) : Quiet (rest milliseconds) := ⟨rfl, rfl⟩

theorem quiet_behind (milliseconds : Nat) (assigned : Frame → Outcome) (done : List Frame) :
    Quiet (behind milliseconds assigned done) := by
  induction done with
  | nil => exact quiet_nil
  | cons frame done ih =>
    exact ((quiet_turn assigned frame).append (quiet_rest milliseconds)).append ih

theorem quiet_alternation (milliseconds : Nat) (assigned : Frame → Outcome)
    (frames : List Frame) : Quiet (alternation milliseconds assigned frames) := by
  fun_induction alternation milliseconds assigned frames with
  | case1 => exact quiet_nil
  | case2 frame => exact quiet_turn assigned frame
  | case3 frame next later ih =>
    exact ((quiet_turn assigned frame).append (quiet_rest milliseconds)).append ih

theorem Quiet.not_awaits (quiet : Quiet seen) (event : Event) : ¬ Awaits seen event := by
  intro awaited
  cases event with
  | resumed =>
    have room : resumed seen < paused seen := awaited
    rw [quiet.pauses] at room
    omega
  | ended index outcome =>
    have room : (ended seen).count index < (begun seen).count index := awaited
    rw [quiet.calls] at room
    omega

/-- After a call has begun, its end is all that is awaited. -/
theorem Quiet.awaits_call_iff (quiet : Quiet seen) {frame : Frame} {event : Event} :
    Awaits (seen ++ [.did (.call frame)]) event ↔
      ∃ outcome, event = .ended frame.index outcome := by
  cases event with
  | resumed =>
    have none : ¬ Awaits (seen ++ [.did (.call frame)]) .resumed := by
      have same := quiet.pauses
      simp only [Awaits, paused_call]
      simp only [resumed, List.countP_append] at same ⊢
      simp [same]
    simp [none]
  | ended index outcome =>
    simp only [Awaits, ended_did, begun_call, quiet.calls, List.count_append, List.count_singleton,
      beq_iff_eq, Event.ended.injEq]
    constructor
    · intro room
      refine ⟨outcome, ?_, rfl⟩
      by_contra apart
      rw [if_neg (Ne.symm apart)] at room
      omega
    · rintro ⟨_, rfl, -⟩
      simp

/-- After a pause has begun, its end is all that is awaited. -/
theorem Quiet.awaits_pause_iff (quiet : Quiet seen) {event : Event} :
    Awaits (seen ++ [.did (.pause milliseconds)]) event ↔ event = .resumed := by
  cases event with
  | resumed =>
    have same := quiet.pauses
    simp only [Awaits, resumed, paused, List.countP_append] at same ⊢
    simp [same]
  | ended index outcome =>
    simp [Awaits, begun, quiet.calls]

/-! ## Turn after turn -/

/-- How far a dispatch one at a time is. -/
inductive Turn (milliseconds : Nat) (assigned : Frame → Outcome) (frames : List Frame) :
    List Occurrence → State → List Act → Prop where
  | next {done later : List Frame} {frame : Frame} (whole : done ++ frame :: later = frames) :
      Turn milliseconds assigned frames (behind milliseconds assigned done)
        (.calling [⟨frame, none⟩] ⟨.sequential milliseconds, done.length + 1, batches 1 later,
          recorded assigned done (frame :: later)⟩)
        [.call frame]
  | calling {done later : List Frame} {frame : Frame} (whole : done ++ frame :: later = frames) :
      Turn milliseconds assigned frames
        (behind milliseconds assigned done ++ [.did (.call frame)])
        (.calling [⟨frame, none⟩] ⟨.sequential milliseconds, done.length + 1, batches 1 later,
          recorded assigned done (frame :: later)⟩)
        []
  | called {done later : List Frame} {frame following : Frame}
      (whole : done ++ frame :: following :: later = frames) :
      Turn milliseconds assigned frames
        (behind milliseconds assigned done ++ turn assigned frame)
        (.pausing ⟨.sequential milliseconds, done.length + 1, batches 1 (following :: later),
          recorded assigned (done ++ [frame]) (following :: later)⟩)
        [.pause milliseconds]
  | pausing {done later : List Frame} {frame following : Frame}
      (whole : done ++ frame :: following :: later = frames) :
      Turn milliseconds assigned frames
        (behind milliseconds assigned done ++ turn assigned frame ++ [.did (.pause milliseconds)])
        (.pausing ⟨.sequential milliseconds, done.length + 1, batches 1 (following :: later),
          recorded assigned (done ++ [frame]) (following :: later)⟩)
        []
  | completed :
      Turn milliseconds assigned frames (alternation milliseconds assigned frames)
        (.finished (.ok (attempted assigned frames))) []

/-- A turn has shown a first part of the whole course. -/
theorem Turn.initial (turn : Turn milliseconds assigned frames seen state due) :
    seen <+: alternation milliseconds assigned frames := by
  cases turn with
  | next whole =>
    rw [← whole, alternation_append]
    exact List.prefix_append _ _
  | @calling done later frame whole =>
    rw [← whole, alternation_append, List.prefix_append_right_inj]
    cases later with
    | nil => exact ⟨_, rfl⟩
    | cons following later => exact ⟨_, rfl⟩
  | called whole =>
    rw [← whole, alternation_append, List.prefix_append_right_inj, alternation, List.append_assoc]
    exact List.prefix_append _ _
  | pausing whole =>
    rw [← whole, alternation_append, List.append_assoc, List.prefix_append_right_inj]
    exact ⟨_, rfl⟩
  | completed => exact List.prefix_rfl

/-- The call for the next frame is begun. -/
theorem turn_launch {done later : List Frame} {frame : Frame}
    (whole : done ++ frame :: later = frames) :
    let next := launch ⟨.sequential milliseconds, done.length, batches 1 (frame :: later),
      recorded assigned done (frame :: later)⟩
    Turn milliseconds assigned frames (behind milliseconds assigned done) next.1 next.2 := by
  intro next
  simp only [next]
  rw [launch_batches Nat.one_pos (List.cons_ne_nil frame later)]
  exact .next whole

/-- What a dispatch does next does not change its state. -/
theorem Turn.act {act : Act} (turn : Turn milliseconds assigned frames seen state (act :: due)) :
    Turn milliseconds assigned frames (seen ++ [.did act]) state due := by
  generalize equal : act :: due = pending at turn
  cases turn with
  | next whole =>
    obtain ⟨rfl, rfl⟩ := List.cons.inj equal
    exact .calling whole
  | calling whole => cases equal
  | called whole =>
    obtain ⟨rfl, rfl⟩ := List.cons.inj equal
    exact .pausing whole
  | pausing whole => cases equal
  | completed => cases equal

/-- When a call has ended, its outcome is recorded; a pause follows unless it was the last. -/
theorem turn_settle (numbered : IsNumbered frames) {done later : List Frame}
    {frame : Frame} (whole : done ++ frame :: later = frames) :
    let next := settle ⟨.sequential milliseconds, done.length + 1, batches 1 later,
      recorded assigned done (frame :: later)⟩ [(frame.index, assigned frame)]
    Turn milliseconds assigned frames (behind milliseconds assigned done ++ turn assigned frame)
      next.1 next.2 := by
  intro next
  have split : IsNumbered (done ++ [frame] ++ later) := by simpa [whole] using numbered
  have record := recordAll_batch assigned split
  simp only [List.singleton_append, List.map_singleton] at record
  simp only [next, settle, record, proceed]
  cases later with
  | nil =>
    have last : Turn milliseconds assigned frames (alternation milliseconds assigned frames) _ [] :=
      .completed
    rw [← recorded_nil, ← whole, alternation_append] at last
    simpa [batches, alternation, whole] using last
  | cons following later =>
    have some : batches 1 (following :: later) ≠ [] := by simp [batches]
    rw [List.isEmpty_eq_false_iff.mpr some]
    exact .called whole

/-- Nothing but the call or the pause under way ends, and it ends the turn or the pause. -/
theorem Turn.event {event : Event} (turn : Turn milliseconds assigned frames seen state due)
    (numbered : IsNumbered frames) (awaited : Awaits seen event)
    (answers : Answers assigned frames (seen ++ [.heard event])) :
    Turn milliseconds assigned frames (seen ++ [.heard event]) (step state event).1
      (due ++ (step state event).2) := by
  -- One thing at most is under way, so the event can only be its end.
  cases turn with
  | @next done later frame whole =>
    exact absurd awaited ((quiet_behind milliseconds assigned done).not_awaits event)
  | @calling done later frame whole =>
    obtain ⟨outcome, rfl⟩ := (quiet_behind milliseconds assigned done).awaits_call_iff.mp awaited
    have answer : outcome = assigned frame :=
      answers frame (by simp [← whole]) outcome (by simp)
    have settled : step (.calling [⟨frame, none⟩] ⟨.sequential milliseconds, done.length + 1,
        batches 1 later, recorded assigned done (frame :: later)⟩) (.ended frame.index outcome) =
        settle ⟨.sequential milliseconds, done.length + 1, batches 1 later,
          recorded assigned done (frame :: later)⟩ [(frame.index, outcome)] := by
      simp [step, note, outcomes?]
    rw [settled, answer, List.append_assoc]
    exact turn_settle numbered whole
  | @called done later frame following whole =>
    have quiet := (quiet_behind milliseconds assigned done).append (quiet_turn assigned frame)
    exact absurd awaited (quiet.not_awaits event)
  | @pausing done later frame following whole =>
    have quiet := (quiet_behind milliseconds assigned done).append (quiet_turn assigned frame)
    obtain rfl := quiet.awaits_pause_iff.mp awaited
    have wholeToo : (done ++ [frame]) ++ following :: later = frames := by simpa using whole
    have launched : Turn milliseconds assigned frames _ _ _ := turn_launch wholeToo
    rw [behind_append, List.length_append] at launched
    simpa [rest, step] using launched
  | completed =>
    exact absurd awaited ((quiet_alternation milliseconds assigned frames).not_awaits event)

/-- A dispatch one at a time is always in some turn. -/
theorem Run.turn (run : Run (.sequential milliseconds) frames seen state due)
    (numbered : IsNumbered frames) (answers : Answers assigned frames seen) :
    Turn milliseconds assigned frames seen state due := by
  induction run with
  | start =>
    rw [start_eq_launch numbered.misnumbered?, fresh_eq_recorded assigned frames]
    cases frames with
    | nil =>
      rw [batchesOf, launch_nil, recorded_nil]
      exact .completed
    | cons frame later =>
      have first : [] ++ frame :: later = frame :: later := rfl
      exact turn_launch first
  | act before ih => exact (ih answers.of_append).act
  | event before awaited ih => exact (ih answers.of_append).event numbered awaited answers

/-- When a run is over, it has shown the whole course. -/
theorem Turn.isOver (turn : Turn milliseconds assigned frames seen state due)
    (past : IsOver seen due) :
    seen = alternation milliseconds assigned frames ∧
      state = .finished (.ok (attempted assigned frames)) := by
  cases turn with
  | next whole => cases past.done
  | @calling done later frame whole =>
    have quiet := quiet_behind milliseconds assigned done
    exact absurd (quiet.awaits_call_iff.mpr ⟨assigned frame, rfl⟩) (past.silent _)
  | called whole => cases past.done
  | @pausing done later frame following whole =>
    have quiet := (quiet_behind milliseconds assigned done).append (quiet_turn assigned frame)
    exact absurd (quiet.awaits_pause_iff.mpr rfl) (past.silent _)
  | completed => exact ⟨rfl, rfl⟩

/-- A run is over as soon as the dispatch has a result. -/
theorem Turn.isOver_iff (turn : Turn milliseconds assigned frames seen state due) :
    IsOver seen due ↔ ∃ result, state = .finished result := by
  constructor
  · exact fun past => ⟨_, (turn.isOver past).2⟩
  · rintro ⟨result, rfl⟩
    cases turn with
    | completed => exact ⟨rfl, (quiet_alternation milliseconds assigned frames).not_awaits⟩

/-- A run shows no more than the whole course. -/
theorem Run.bounded_sequential (numbered : IsNumbered frames)
    (run : Run (.sequential milliseconds) frames seen state due)
    (answers : Answers assigned frames seen) :
    seen.length ≤ 4 * frames.length ∧ Dispatch.called seen ⊆ frames := by
  have initial := (run.turn numbered answers).initial
  have inside := initial.sublist.filterMap Occurrence.called?
  refine ⟨initial.length_le.trans (length_alternation_le milliseconds assigned frames), ?_⟩
  exact called_alternation milliseconds assigned frames ▸ inside.subset

theorem Run.goesOn_sequential (numbered : IsNumbered frames)
    (run : Run (.sequential milliseconds) frames seen state due)
    (answers : Answers assigned frames seen) :
    GoesOn (.sequential milliseconds) assigned frames seen :=
  run.goesOn (fun other => other.bounded_sequential numbered) (nodup_index numbered) answers

/-! ## Both policies -/

/-- Of frames whose numbers do not count their places the first in a wrong place is reported. -/
theorem Run.refused (run : Run policy frames seen state due)
    (disordered : ¬ CountsFrom 1 (frames.map Frame.index)) :
    ∃ before frame later, frames = before ++ frame :: later ∧
      CountsFrom 1 (before.map Frame.index) ∧
      frame.index ≠ UInt32.ofNat (before.length + 1) ∧ seen = [] ∧ due = [] ∧
      state = .finished (.error (.misnumbered
        ⟨UInt32.ofNat (before.length + 1), frame.index⟩)) := by
  rw [← misnumbered?_eq_none_iff] at disordered
  obtain ⟨fault, misnumbered⟩ := Option.ne_none_iff_exists'.mp disordered
  obtain ⟨before, frame, later, rfl, counts, apart, rfl⟩ := exists_of_misnumberedFrom? misnumbered
  obtain ⟨rfl, rfl, rfl⟩ := run.of_misnumbered misnumbered
  rw [Nat.add_comm] at apart ⊢
  exact ⟨before, frame, later, rfl, counts, apart, rfl, rfl, rfl⟩

/-- One at a time, a dispatch of numbered frames makes the calls in their order, with a pause
between two, and its job holds what every call came to; in batches of any size its job is the same
if no call fails.  Of frames whose numbers do not count their places the first in a wrong place is
reported, and none is ever called on; of fewer frames than there are numbers that are all that are
not numbered from 1. -/
theorem policies_agree (assigned : Frame → Outcome) (run : Run policy frames seen state due)
    (answers : Answers assigned frames seen) :
    (IsNumbered frames →
      (attempted assigned frames).isDone = true ∧
      (∀ frame ∈ frames,
        (attempted assigned frames).slot? frame.index = some (slotOf (assigned frame))) ∧
      (∀ milliseconds, policy = .sequential milliseconds →
        GoesOn policy assigned frames seen ∧
        seen <+: alternation milliseconds assigned frames ∧
        (IsOver seen due ↔ ∃ result, state = .finished result) ∧
        (IsOver seen due →
          state = .finished (.ok (attempted assigned frames)) ∧
          seen = alternation milliseconds assigned frames ∧
          acts seen = (frames.map Act.call).intersperse (.pause milliseconds) ∧
          paused seen = frames.length - 1)) ∧
      (∀ size, policy = .batched size →
        (∀ frame ∈ frames, ∃ report, assigned frame = .ok report) →
        GoesOn policy assigned frames seen ∧
        (IsOver seen due ↔ ∃ result, state = .finished result) ∧
        (IsOver seen due → state = .finished (.ok (attempted assigned frames))))) ∧
    (¬ CountsFrom 1 (frames.map Frame.index) →
      ∃ before frame later, frames = before ++ frame :: later ∧
        CountsFrom 1 (before.map Frame.index) ∧
        frame.index ≠ UInt32.ofNat (before.length + 1) ∧ seen = [] ∧ due = [] ∧
        state = .finished (.error (.misnumbered
          ⟨UInt32.ofNat (before.length + 1), frame.index⟩))) ∧
    (¬ IsNumbered frames → frames.length < 2 ^ 32 →
      ∃ before frame later, frames = before ++ frame :: later ∧ IsNumbered before ∧
        frame.index.toNat ≠ before.length + 1 ∧ seen = [] ∧ due = [] ∧
        state = .finished (.error (.misnumbered
          ⟨UInt32.ofNat (before.length + 1), frame.index⟩))) := by
  refine ⟨fun numbered => ?_, run.refused, fun unnumbered few => ?_⟩
  · refine ⟨isDone_attempted assigned frames, fun frame => slot?_attempted numbered, ?_, ?_⟩
    · rintro milliseconds rfl
      have turn := run.turn numbered answers
      refine ⟨run.goesOn_sequential numbered answers, turn.initial, turn.isOver_iff, fun past => ?_⟩
      obtain ⟨rfl, rfl⟩ := turn.isOver past
      exact ⟨rfl, rfl, acts_alternation milliseconds assigned frames,
        paused_alternation milliseconds assigned frames⟩
    · rintro size rfl fine
      have phase := run.phase numbered answers
      refine ⟨run.goesOn_batched numbered answers,
        phase.isOver_iff numbered (run.phases numbered).2.1, fun past => ?_⟩
      rcases phase.isOver_cases numbered past with
        ⟨-, rfl, -⟩ | ⟨frame, error, progress, aborted, -⟩
      · rw [recorded_nil]
      · exact absurd fine aborted.first.not_fine
  · have disordered : ¬ CountsFrom 1 (frames.map Frame.index) := fun counts =>
      unnumbered (isNumbered_iff.mpr ⟨misnumbered?_eq_none_iff.mpr counts, few⟩)
    obtain ⟨before, frame, later, rfl, counts, apart, nothing⟩ := run.refused disordered
    rw [List.length_append, List.length_cons] at few
    refine ⟨before, frame, later, rfl, ?_, fun place => apart ?_, nothing⟩
    · exact counts.isCount (by rw [List.length_map]; omega)
    · rw [← place, UInt32.ofNat_toNat]

/-- Three frames one at a time, of which the second is lost: its slot holds why, and the third is
called on after a second pause. -/
theorem policies_agree_secondLost :
    ∃ seen state, Run (.sequential 10) (shortVideo 3) seen state [] ∧
      Answers loseSecond (shortVideo 3) seen ∧ IsOver seen [] ∧
      state = .finished (.ok (attempted loseSecond (shortVideo 3))) ∧
      acts seen = ((shortVideo 3).map Act.call).intersperse (.pause 10) ∧ paused seen = 2 := by
  have fresh : Run (.sequential 10) (shortVideo 3) [] _ _ := .start
  have unanswered : Answers loseSecond (shortVideo 3) [] := fun _ _ _ here => nomatch here
  obtain ⟨⟨seen, state, run, answers, past⟩, -, -, -⟩ :=
    ((policies_agree loseSecond fresh unanswered).1 isNumbered_shortVideo).2.2.1 10 rfl
  obtain ⟨-, -, -, whole⟩ :=
    ((policies_agree loseSecond run answers).1 isNumbered_shortVideo).2.2.1 10 rfl
  obtain ⟨result, -, course, pauses⟩ := whole past
  exact ⟨_, state, run, answers, past, result, course, pauses⟩

/-- A dispatch of images calls on the first of them, however many they are. -/
theorem acts_start_ofImages (policy : Policy) (image : Bytes) (images : List Bytes)
    (format : String) (now : Time.Instant) :
    .call (.ofImage 1 image format now) ∈
      (start policy (Frame.ofImages (image :: images) format now)).2 := by
  have first : Frame.ofImages (image :: images) format now =
      .ofImage 1 image format now :: (Frame.ofImages (image :: images) format now).tail := by
    simp [Frame.ofImages]
  rw [start_eq_launch (misnumbered?_ofImages _ _ _)]
  obtain ⟨width, positive, batched⟩ : ∃ width, 0 < width ∧
      ∀ frames, batchesOf policy frames = batches width frames := by
    cases policy with
    | sequential milliseconds => exact ⟨1, Nat.one_pos, fun _ => rfl⟩
    | batched size => exact ⟨max 1 size, by omega, fun _ => rfl⟩
  rw [batched, launch_batches positive (by rw [first]; exact List.cons_ne_nil _ _)]
  refine List.mem_map_of_mem ?_
  rw [first, List.take_cons positive]
  exact List.mem_cons_self

/-- Frames with the numbers 1 to 2 are refused if they come in another order, and frames that are
more than there are numbers are called on although they are not numbered from 1. -/
theorem refused_secondFirst_or_called_beyond :
    (((shortVideo 2).reverse.map fun frame => frame.index.toNat).Perm (List.range' 1 2) ∧
      ∀ policy, start policy (shortVideo 2).reverse =
        (.finished (.error (.misnumbered ⟨1, 2⟩)), [])) ∧
    ∃ frames, ¬ IsNumbered frames ∧ ∀ policy, (start policy frames).2 ≠ [] := by
  refine ⟨⟨by decide +kernel, fun policy => ?_⟩, ?_⟩
  · have fault : misnumbered? (shortVideo 2).reverse = some ⟨1, 2⟩ := by decide +kernel
    simp only [start, fault]
  · refine ⟨Frame.ofImages ([] :: List.replicate (2 ^ 32) []) "jpg" firstSecond, ?_, ?_⟩
    · intro numbered
      have few := (isNumbered_iff.mp numbered).2
      rw [Frame.ofImages, List.length_mapIdx, List.length_cons, List.length_replicate] at few
      omega
    · intro policy
      exact List.ne_nil_of_mem (acts_start_ofImages policy [] _ "jpg" firstSecond)

end FrameCourier.Dispatch
