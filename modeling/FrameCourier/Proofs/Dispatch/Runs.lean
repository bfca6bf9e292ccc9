import FrameCourier.Dispatch.Basic
import Mathlib.Data.List.Induction
import Mathlib.Data.List.Nodup

/-!
# Runs of a dispatch

A dispatch says what is to be done and is told what comes of it.  In a run its acts are done in
their order, and whatever has begun may end at any time: the calls of a batch in any order, and
some of them even before others have begun.  What a run has shown so far says all that matters of
it: which calls have begun, and what those that have ended have come to.
-/

namespace FrameCourier.Dispatch

/-- Something that happens in a run. -/
inductive Occurrence where
  | did (act : Act)
  | heard (event : Event)
  deriving Repr

/-! ## What a run has shown -/

/-- The frame whose call begins. -/
def Occurrence.called? : Occurrence → Option Frame
  | did (.call frame) => some frame
  | _ => none

/-- The number of the frame whose call ends. -/
def Occurrence.ended? : Occurrence → Option UInt32
  | heard (.ended index _) => some index
  | _ => none

/-- The frames whose calls have begun, in the order in which they have. -/
def called (seen : List Occurrence) : List Frame := seen.filterMap Occurrence.called?

/-- The numbers of these frames. -/
def begun (seen : List Occurrence) : List UInt32 := (called seen).map Frame.index

/-- The numbers of the frames whose calls have ended, in the order in which they have. -/
def ended (seen : List Occurrence) : List UInt32 := seen.filterMap Occurrence.ended?

/-- How many pauses have begun. -/
def paused (seen : List Occurrence) : Nat :=
  seen.countP fun
    | .did (.pause _) => true
    | _ => false

/-- How many pauses are over. -/
def resumed (seen : List Occurrence) : Nat :=
  seen.countP fun
    | .heard .resumed => true
    | _ => false

/-- Something ends only if more of it has begun than has ended. -/
def Awaits (seen : List Occurrence) : Event → Prop
  | .ended index _ => (ended seen).count index < (begun seen).count index
  | .resumed => resumed seen < paused seen

instance (seen : List Occurrence) : (event : Event) → Decidable (Awaits seen event)
  | .ended index _ => Nat.decLt ((ended seen).count index) ((begun seen).count index)
  | .resumed => Nat.decLt (resumed seen) (paused seen)

/-- Nothing is left to do, and nothing can end any more. -/
structure IsOver (seen : List Occurrence) (due : List Act) : Prop where
  done : due = []
  silent : ∀ event, ¬ Awaits seen event

/-- Every call comes to what is assigned to its frame. -/
def Answers (assigned : Frame → Outcome) (frames : List Frame) (seen : List Occurrence) : Prop :=
  ∀ frame ∈ frames, ∀ outcome, .heard (.ended frame.index outcome) ∈ seen →
    outcome = assigned frame

/-! ## Runs -/

/-- What can happen to a dispatch of frames, its state then, and the acts that are still due. -/
inductive Run (policy : Policy) (frames : List Frame) :
    List Occurrence → State → List Act → Prop where
  | start : Run policy frames [] (start policy frames).1 (start policy frames).2
  | act {seen : List Occurrence} {state : State} {act : Act} {due : List Act}
      (before : Run policy frames seen state (act :: due)) :
      Run policy frames (seen ++ [.did act]) state due
  | event {seen : List Occurrence} {state : State} {due : List Act} {event : Event}
      (before : Run policy frames seen state due) (awaited : Awaits seen event) :
      Run policy frames (seen ++ [.heard event]) (step state event).1
        (due ++ (step state event).2)

variable {policy : Policy} {frames : List Frame} {seen more : List Occurrence} {state : State}
  {due : List Act}

/-- All acts that are due can be done before anything ends. -/
theorem Run.doAll (run : Run policy frames seen state due) :
    Run policy frames (seen ++ due.map .did) state [] := by
  induction due generalizing seen with
  | nil => simpa using run
  | cons act due ih => simpa using ih run.act

/-- What a run has shown at an earlier point is a run itself. -/
theorem Run.of_append (run : Run policy frames (seen ++ more) state due) :
    ∃ earlier still, Run policy frames seen earlier still := by
  induction more using List.reverseRecOn generalizing state due with
  | nil => exact ⟨state, due, by simpa using run⟩
  | append_singleton more last ih =>
    rw [← List.append_assoc] at run
    generalize equal : seen ++ more ++ [last] = shown at run
    cases run with
    | start => simp at equal
    | act before =>
      obtain ⟨same, -⟩ := List.append_inj' equal rfl
      exact ih (same ▸ before)
    | event before awaited =>
      obtain ⟨same, -⟩ := List.append_inj' equal rfl
      exact ih (same ▸ before)

/-- Nothing happens to frames that are not numbered from 1. -/
theorem Run.of_misnumbered {fault : Misnumbered} (misnumbered : misnumbered? frames = some fault)
    (run : Run policy frames seen state due) :
    seen = [] ∧ due = [] ∧ state = .finished (.error (.misnumbered fault)) := by
  induction run with
  | start => simp [Dispatch.start, misnumbered]
  | act before ih => simp at ih
  | @event seen state due event before awaited ih =>
    obtain ⟨rfl, -, -⟩ := ih
    cases event <;> cases awaited

/-! ## One occurrence more -/

@[simp] theorem called_call (seen : List Occurrence) (frame : Frame) :
    called (seen ++ [.did (.call frame)]) = called seen ++ [frame] := by
  simp [called, Occurrence.called?]

@[simp] theorem called_pause (seen : List Occurrence) (milliseconds : Nat) :
    called (seen ++ [.did (.pause milliseconds)]) = called seen := by
  simp [called, Occurrence.called?]

@[simp] theorem called_heard (seen : List Occurrence) (event : Event) :
    called (seen ++ [.heard event]) = called seen := by
  simp [called, Occurrence.called?]

@[simp] theorem begun_call (seen : List Occurrence) (frame : Frame) :
    begun (seen ++ [.did (.call frame)]) = begun seen ++ [frame.index] := by
  simp [begun]

@[simp] theorem begun_heard (seen : List Occurrence) (event : Event) :
    begun (seen ++ [.heard event]) = begun seen := by
  simp [begun]

@[simp] theorem ended_did (seen : List Occurrence) (act : Act) :
    ended (seen ++ [.did act]) = ended seen := by
  simp [ended, Occurrence.ended?]

@[simp] theorem ended_ended (seen : List Occurrence) (index : UInt32) (outcome : Outcome) :
    ended (seen ++ [.heard (.ended index outcome)]) = ended seen ++ [index] := by
  simp [ended, Occurrence.ended?]

@[simp] theorem ended_resumed (seen : List Occurrence) :
    ended (seen ++ [.heard .resumed]) = ended seen := by
  simp [ended, Occurrence.ended?]

@[simp] theorem paused_call (seen : List Occurrence) (frame : Frame) :
    paused (seen ++ [.did (.call frame)]) = paused seen := by
  simp [paused]

@[simp] theorem paused_heard (seen : List Occurrence) (event : Event) :
    paused (seen ++ [.heard event]) = paused seen := by
  simp [paused]

/-- All that happens is that calls and pauses begin and end. -/
theorem length_eq (seen : List Occurrence) :
    seen.length = (begun seen).length + (ended seen).length + paused seen + resumed seen := by
  induction seen with
  | nil => rfl
  | cons occurrence seen ih =>
    simp only [begun, called, ended, paused, resumed, List.length_map, List.length_cons] at ih ⊢
    rcases occurrence with (frame | milliseconds) | (⟨index, outcome⟩ | _) <;>
      simp [Occurrence.called?, Occurrence.ended?, List.filterMap_cons] <;> omega

theorem mem_ended_of_mem {index : UInt32} {outcome : Outcome}
    (member : .heard (.ended index outcome) ∈ seen) : index ∈ ended seen :=
  List.mem_filterMap.mpr ⟨_, member, rfl⟩

theorem exists_of_mem_ended {index : UInt32} (member : index ∈ ended seen) :
    ∃ outcome, .heard (.ended index outcome) ∈ seen := by
  obtain ⟨occurrence, inside, same⟩ := List.mem_filterMap.mp member
  unfold Occurrence.ended? at same
  split at same
  · next other outcome =>
    cases same
    exact ⟨outcome, inside⟩
  · cases same

/-! ## Calls in flight -/

/-- No call ends that has not begun, and none twice. -/
theorem Run.count_ended_le (run : Run policy frames seen state due) (index : UInt32) :
    (ended seen).count index ≤ (begun seen).count index := by
  induction run with
  | start => simp [ended]
  | @act seen state act due before ih =>
    cases act with
    | call frame =>
      rw [ended_did, begun_call, List.count_append]
      omega
    | pause milliseconds => simpa [begun] using ih
  | @event seen state due event before awaited ih =>
    cases event with
    | resumed => simpa using ih
    | ended other outcome =>
      rw [ended_ended, begun_heard, List.count_append, List.count_singleton]
      by_cases same : other = index
      · subst same
        have room : (ended seen).count other < (begun seen).count other := awaited
        simp only [beq_self_eq_true, if_true]
        omega
      · simpa [same] using ih

/-- No pause is over before it has begun. -/
theorem Run.resumed_le (run : Run policy frames seen state due) : resumed seen ≤ paused seen := by
  induction run with
  | start => exact Nat.le_refl 0
  | @act seen state act due before ih =>
    have sameResumed : resumed (seen ++ [.did act]) = resumed seen := by simp [resumed]
    have morePaused : paused seen ≤ paused (seen ++ [.did act]) := by simp [paused]
    omega
  | @event seen state due event before awaited ih =>
    rw [paused_heard]
    cases event with
    | ended index outcome => simpa [resumed] using ih
    | resumed =>
      have room : resumed seen < paused seen := awaited
      have oneMore : resumed (seen ++ [.heard .resumed]) = resumed seen + 1 := by simp [resumed]
      omega

theorem Run.ended_subset (run : Run policy frames seen state due) : ended seen ⊆ begun seen := by
  intro index member
  have positive := List.count_pos_iff.mpr member
  have bound := run.count_ended_le index
  exact List.count_pos_iff.mp (by omega)

/-- If every call has begun once at most, it has ended once at most. -/
theorem Run.nodup_ended (run : Run policy frames seen state due) (once : (begun seen).Nodup) :
    (ended seen).Nodup := by
  rw [List.nodup_iff_count_le_one] at once ⊢
  exact fun index => Nat.le_trans (run.count_ended_le index) (once index)

/-- If every call has begun once at most, it is awaited from its begin to its end. -/
theorem awaits_ended_iff (once : (begun seen).Nodup) {index : UInt32} {outcome : Outcome} :
    Awaits seen (.ended index outcome) ↔ index ∈ begun seen ∧ index ∉ ended seen := by
  have few : (begun seen).count index ≤ 1 := List.nodup_iff_count_le_one.mp once index
  rw [← List.count_pos_iff (l := begun seen), ← List.count_eq_zero (l := ended seen)]
  constructor
  · intro awaited
    have room : (ended seen).count index < (begun seen).count index := awaited
    omega
  · rintro ⟨here, gone⟩
    change (ended seen).count index < (begun seen).count index
    omega

/-- A run is over once all that has begun has ended and nothing more is due. -/
theorem isOver_of_ended (calls : ∀ index, (begun seen).count index ≤ (ended seen).count index)
    (pauses : paused seen ≤ resumed seen) : IsOver seen [] := by
  refine ⟨rfl, fun event awaited => ?_⟩
  cases event with
  | resumed =>
    have room : resumed seen < paused seen := awaited
    omega
  | ended index outcome =>
    have room : (ended seen).count index < (begun seen).count index := awaited
    have all := calls index
    omega

/-! ## Assignments of outcomes -/

variable {assigned : Frame → Outcome}

theorem Answers.of_append (answers : Answers assigned frames (seen ++ more)) :
    Answers assigned frames seen :=
  fun frame member outcome here => answers frame member outcome (List.mem_append_left more here)

/-- If every call begins once at most, its outcome can be assigned to its frame. -/
theorem Run.exists_answers (run : Run policy frames seen state due) (once : (begun seen).Nodup) :
    ∃ assigned, Answers assigned frames seen := by
  induction run with
  | start => exact ⟨fun _ => .error (.connectionEnded 0), by simp [Answers]⟩
  | @act seen state act due before ih =>
    have onceBefore : (begun seen).Nodup := by
      cases act with
      | call frame => exact (List.nodup_append.mp (begun_call seen frame ▸ once)).1
      | pause milliseconds => simpa [begun] using once
    obtain ⟨assigned, answers⟩ := ih onceBefore
    exact ⟨assigned, fun frame member outcome here =>
      answers frame member outcome (by simpa using here)⟩
  | @event seen state due event before awaited ih =>
    rw [begun_heard] at once
    obtain ⟨assigned, answers⟩ := ih once
    cases event with
    | resumed =>
      exact ⟨assigned, fun frame member outcome here =>
        answers frame member outcome (by simpa using here)⟩
    | ended index outcome =>
      have fresh := ((awaits_ended_iff once).mp awaited).2
      refine ⟨fun frame => if frame.index = index then outcome else assigned frame, ?_⟩
      intro frame member other here
      rcases List.mem_append.mp here with earlier | last
      · have apart : frame.index ≠ index := fun same => fresh (same ▸ mem_ended_of_mem earlier)
        simpa [apart] using answers frame member other earlier
      · simp only [List.mem_singleton, Occurrence.heard.injEq, Event.ended.injEq] at last
        simp [last.1, last.2]

/-! ## The end of a run -/

/-- What is not over can go on, with a call that ends as it is assigned to. -/
theorem Run.exists_next (run : Run policy frames seen state due) (unfinished : ¬ IsOver seen due)
    (distinct : (frames.map Frame.index).Nodup) (inside : called seen ⊆ frames)
    (answers : Answers assigned frames seen) :
    ∃ occurrence next still, Run policy frames (seen ++ [occurrence]) next still ∧
      Answers assigned frames (seen ++ [occurrence]) := by
  cases due with
  | cons act due =>
    refine ⟨.did act, state, due, run.act, fun frame member outcome here => ?_⟩
    exact answers frame member outcome (by simpa using here)
  | nil =>
    obtain ⟨event, awaited⟩ : ∃ event, Awaits seen event := by
      by_contra silent
      exact unfinished ⟨rfl, not_exists.mp silent⟩
    cases event with
    | resumed =>
      refine ⟨_, _, _, run.event awaited, fun frame member outcome here => ?_⟩
      exact answers frame member outcome (by simpa using here)
    | ended index outcome =>
      have room : (ended seen).count index < (begun seen).count index := awaited
      obtain ⟨frame, member, rfl⟩ := List.mem_map.mp
        (List.count_pos_iff.mp (by omega : 0 < (begun seen).count index))
      have awaitedToo : Awaits seen (.ended frame.index (assigned frame)) := room
      refine ⟨_, _, _, run.event awaitedToo, fun other otherMember outcome here => ?_⟩
      rcases List.mem_append.mp here with earlier | last
      · exact answers other otherMember outcome earlier
      · simp only [List.mem_singleton, Occurrence.heard.injEq, Event.ended.injEq] at last
        rw [List.inj_on_of_nodup_map distinct otherMember (inside member) last.1, last.2]

/-- The run goes on to its end, with calls that come to what is assigned to their frames. -/
def GoesOn (policy : Policy) (assigned : Frame → Outcome) (frames : List Frame)
    (seen : List Occurrence) : Prop :=
  ∃ more last, Run policy frames (seen ++ more) last [] ∧
    Answers assigned frames (seen ++ more) ∧ IsOver (seen ++ more) []

/-- If no run is longer than `bound`, every run goes on to its end. -/
theorem Run.goesOn {bound : Nat}
    (bounded : ∀ {seen state due}, Run policy frames seen state due →
      Answers assigned frames seen → seen.length ≤ bound ∧ called seen ⊆ frames)
    (distinct : (frames.map Frame.index).Nodup) (run : Run policy frames seen state due)
    (answers : Answers assigned frames seen) : GoesOn policy assigned frames seen := by
  -- Whatever happens next leaves less room under the bound.
  obtain ⟨room, left⟩ : ∃ room, bound - seen.length = room := ⟨_, rfl⟩
  induction room using Nat.strongRecOn generalizing seen state due with
  | _ room ih =>
    by_cases past : IsOver seen due
    · have nothing := past.done
      subst nothing
      exact ⟨[], state, by simpa using run, by simpa using answers, by simpa using past⟩
    · obtain ⟨occurrence, next, still, longer, answersToo⟩ :=
        run.exists_next past distinct (bounded run answers).2 answers
      have short := (bounded longer answersToo).1
      have less : bound - (seen ++ [occurrence]).length < room := by
        simp only [List.length_append, List.length_singleton] at short ⊢
        omega
      obtain ⟨more, last, whole, all, ended⟩ := ih _ less longer answersToo rfl
      refine ⟨occurrence :: more, last, ?_, ?_, ?_⟩
      · simpa using whole
      · simpa using all
      · simpa using ended

end FrameCourier.Dispatch
