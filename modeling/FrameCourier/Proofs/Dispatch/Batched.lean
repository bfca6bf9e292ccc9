import FrameCourier.Proofs.Dispatch.Recording
import FrameCourier.Proofs.Dispatch.Runs

/-!
# The phases of a dispatch in batches

At any point of a run, every call of the earlier batches has ended with a report, and of the
current batch some calls have begun and some of those have ended.  The dispatch either is in such
a batch, or has its job, or has failed with its last batch.  Which of these it is, and all that
it holds then, follows from what the run has shown and from what the calls come to.
-/

namespace FrameCourier.Dispatch

/-- How far a dispatch in batches of `size` is. -/
inductive Phase (assigned : Frame → Outcome) (size : Nat) (frames : List Frame) :
    List Occurrence → State → List Act → Prop where
  /-- A batch is under way.  The frames in `done` are behind, the calls for those in `waiting` have
  not begun yet. -/
  | calling {seen : List Occurrence} {earlier : Nat} {done batch later waiting : List Frame}
      (whole : done ++ batch ++ later = frames)
      (place : done.length = earlier * max 1 size)
      (full : batch.length = min (max 1 size) (batch ++ later).length)
      (calls : called seen ++ waiting = done ++ batch)
      (settled : ∀ frame ∈ done, frame.index ∈ ended seen ∧ ∃ report, assigned frame = .ok report)
      (unfinished : ∃ frame ∈ batch, frame.index ∉ ended seen) :
      Phase assigned size frames seen
        (.calling (underway assigned (ended seen) batch)
          ⟨.batched size, earlier + 1, batches (max 1 size) later,
            recorded assigned done (batch ++ later)⟩)
        (waiting.map .call)
  | completed {seen : List Occurrence} (calls : called seen = frames)
      (settled : ∀ frame ∈ frames,
        frame.index ∈ ended seen ∧ ∃ report, assigned frame = .ok report) :
      Phase assigned size frames seen (.finished (.ok (recorded assigned frames []))) []
  | failed {seen : List Occurrence} {earlier : Nat} {done batch later : List Frame}
      {index : UInt32} {error : Client.Error}
      (whole : done ++ batch ++ later = frames)
      (place : done.length = earlier * max 1 size)
      (full : batch.length = min (max 1 size) (batch ++ later).length)
      (calls : called seen = done ++ batch)
      (past : ∀ frame ∈ done ++ batch, frame.index ∈ ended seen)
      (fine : ∀ frame ∈ done, ∃ report, assigned frame = .ok report)
      (failure : firstFailure? (batch.map fun frame => (frame.index, assigned frame)) =
        some (index, error)) :
      Phase assigned size frames seen
        (.finished (.error (.batchFailed (earlier + 1) index
          (recorded assigned (done ++ batch) later).progress error)))
        []

variable {assigned : Frame → Outcome} {size : Nat} {frames : List Frame} {seen : List Occurrence}
  {state : State} {due : List Act}

/-! ## What every phase says of the calls -/

/-- Calls begin in the order of the frames. -/
theorem Phase.called_initial (phase : Phase assigned size frames seen state due) :
    called seen <+: frames := by
  cases phase with
  | @calling earlier done batch later waiting whole place full calls settled unfinished =>
    exact ⟨waiting ++ later, by rw [← List.append_assoc, calls, whole]⟩
  | completed calls settled => exact ⟨[], by simpa using calls⟩
  | @failed earlier done batch later index error whole place full calls past fine failure =>
    exact ⟨later, by rw [calls, whole]⟩

theorem Phase.nodup_begun (phase : Phase assigned size frames seen state due)
    (distinct : (frames.map Frame.index).Nodup) : (begun seen).Nodup :=
  distinct.sublist (phase.called_initial.sublist.map Frame.index)

/-- Nothing but calls is ever due. -/
theorem Phase.exists_call (phase : Phase assigned size frames seen state due) {act : Act}
    (member : act ∈ due) : ∃ frame, act = .call frame := by
  cases phase with
  | calling whole place full calls settled unfinished =>
    obtain ⟨frame, -, rfl⟩ := List.mem_map.mp member
    exact ⟨frame, rfl⟩
  | completed calls settled => cases member
  | failed whole place full calls past fine failure => cases member

/-! ## From phase to phase -/

/-- When the frames in `done` have their reports, the next batch begins, or the job is complete. -/
theorem phase_launch (distinct : (frames.map Frame.index).Nodup) {earlier : Nat}
    {done later : List Frame} (whole : done ++ later = frames)
    (place : done.length = earlier * max 1 size ∨ later = []) (calls : called seen = done)
    (settled : ∀ frame ∈ done, frame.index ∈ ended seen ∧ ∃ report, assigned frame = .ok report)
    (inside : ended seen ⊆ begun seen) :
    let next := launch ⟨.batched size, earlier, batches (max 1 size) later,
      recorded assigned done later⟩
    Phase assigned size frames seen next.1 next.2 := by
  intro next
  by_cases nothing : later = []
  · subst nothing
    rw [List.append_nil] at whole
    subst whole
    simp only [next, launch_nil]
    exact .completed calls settled
  · have positive : 0 < max 1 size := by omega
    have split : later.take (max 1 size) ++ later.drop (max 1 size) = later :=
      List.take_append_drop _ _
    have fresh : ∀ frame ∈ later, frame.index ∉ ended seen := by
      intro frame member past
      have twice := inside past
      rw [begun, calls] at twice
      rw [← whole, List.map_append] at distinct
      exact (List.nodup_append.mp distinct).2.2 _ twice _ (List.mem_map_of_mem member) rfl
    have opened : ((later.take (max 1 size)).map fun frame => (⟨frame, none⟩ : Call)) =
        underway assigned (ended seen) (later.take (max 1 size)) := by
      apply List.map_congr_left
      intro frame member
      simp [fresh frame (List.mem_of_mem_take member)]
    have job : recorded assigned done later =
        recorded assigned done (later.take (max 1 size) ++ later.drop (max 1 size)) := by
      rw [split]
    simp only [next]
    rw [launch_batches positive nothing, opened, job]
    refine .calling ?_ (place.resolve_right nothing) ?_ ?_ settled ?_
    · rw [List.append_assoc, split, whole]
    · rw [split, List.length_take]
    · rw [calls]
    · obtain ⟨first, rest, rfl⟩ := List.exists_cons_of_ne_nil nothing
      refine ⟨first, ?_, fresh first List.mem_cons_self⟩
      rw [List.take_cons positive]
      exact List.mem_cons_self

/-- A call begins, and nothing else changes. -/
theorem Phase.act {act : Act} (phase : Phase assigned size frames seen state (act :: due)) :
    Phase assigned size frames (seen ++ [.did act]) state due := by
  generalize equal : act :: due = pending at phase
  cases phase with
  | @calling earlier done batch later waiting whole place full calls settled unfinished =>
    cases waiting with
    | nil => cases equal
    | cons frame waiting =>
      rw [List.map_cons, List.cons.injEq] at equal
      obtain ⟨rfl, rfl⟩ := equal
      have callsToo : called (seen ++ [.did (.call frame)]) ++ waiting = done ++ batch := by
        simpa using calls
      rw [← ended_did seen (.call frame)] at settled unfinished ⊢
      exact .calling whole place full callsToo settled unfinished
  | completed calls settled => cases equal
  | failed whole place full calls past fine failure => cases equal

/-- Once all calls of a batch have ended, all of them have begun. -/
theorem waiting_eq_nil {done batch waiting : List Frame}
    (distinct : ((done ++ batch).map Frame.index).Nodup)
    (calls : called seen ++ waiting = done ++ batch) {past : List UInt32}
    (settled : ∀ frame ∈ done, frame.index ∈ past) (finished : ∀ frame ∈ batch, frame.index ∈ past)
    (inside : past ⊆ begun seen) : waiting = [] := by
  by_contra some
  obtain ⟨frame, rest, rfl⟩ := List.exists_cons_of_ne_nil some
  have member : frame ∈ done ++ batch := calls ▸ by simp
  have past : frame.index ∈ past :=
    (List.mem_append.mp member).elim (settled frame) (finished frame)
  rw [← calls, List.map_append] at distinct
  exact (List.nodup_append.mp distinct).2.2 _ (inside past) _ (by simp) rfl

/-- The last call of a batch ends it: the dispatch fails with its first failure, or goes on. -/
theorem phase_settle (numbered : IsNumbered frames) {earlier : Nat}
    {done batch later : List Frame} (whole : done ++ batch ++ later = frames)
    (place : done.length = earlier * max 1 size)
    (full : batch.length = min (max 1 size) (batch ++ later).length)
    (calls : called seen = done ++ batch)
    (settled : ∀ frame ∈ done, frame.index ∈ ended seen ∧ ∃ report, assigned frame = .ok report)
    (finished : ∀ frame ∈ batch, frame.index ∈ ended seen) (inside : ended seen ⊆ begun seen) :
    let next := settle ⟨.batched size, earlier + 1, batches (max 1 size) later,
      recorded assigned done (batch ++ later)⟩
      (batch.map fun frame => (frame.index, assigned frame))
    Phase assigned size frames seen next.1 next.2 := by
  have distinct := nodup_index numbered
  subst whole
  simp only [settle, recordAll_batch assigned numbered, proceed]
  cases failure : firstFailure? (batch.map fun frame => (frame.index, assigned frame)) with
  | some first =>
    refine .failed rfl place full calls ?_ (fun frame member => (settled frame member).2) failure
    intro frame member
    rcases List.mem_append.mp member with behind | here
    · exact (settled frame behind).1
    · exact finished frame here
  | none =>
    have fine := (firstFailure?_eq_none_iff assigned batch).mp failure
    have placeToo : (done ++ batch).length = (earlier + 1) * max 1 size ∨ later = [] := by
      by_cases nothing : later = []
      · exact .inr nothing
      · have some := List.length_pos_iff.mpr nothing
        rw [List.length_append] at full
        left
        rw [List.length_append, place, Nat.succ_mul]
        omega
    refine phase_launch distinct rfl placeToo calls ?_ inside
    intro frame member
    rcases List.mem_append.mp member with behind | here
    · exact settled frame behind
    · exact ⟨finished frame here, fine frame here⟩

/-- A call ends: its batch goes on, or it ends with it. -/
theorem Phase.ended (phase : Phase assigned size frames seen state due)
    (numbered : IsNumbered frames) {index : UInt32} {outcome : Outcome}
    (here : index ∈ begun seen) (unended : index ∉ Dispatch.ended seen)
    (inside : Dispatch.ended seen ⊆ begun seen)
    (answers : Answers assigned frames (seen ++ [.heard (.ended index outcome)])) :
    Phase assigned size frames (seen ++ [.heard (.ended index outcome)])
      (step state (.ended index outcome)).1 (due ++ (step state (.ended index outcome)).2) := by
  have distinct := nodup_index numbered
  cases phase with
  | @calling earlier done batch later waiting whole place full calls settled unfinished =>
    have answer : ∀ frame ∈ batch, frame.index = index → outcome = assigned frame := by
      rintro frame member rfl
      exact answers frame (by simp [← whole, member]) outcome (by simp)
    have noted := note_underway unended answer
      ((whole ▸ distinct).sublist (by simp) : (batch.map Frame.index).Nodup)
    have settledToo : ∀ frame ∈ done, frame.index ∈ Dispatch.ended seen ++ [index] ∧
        ∃ report, assigned frame = .ok report := fun frame member =>
      ⟨List.mem_append_left _ (settled frame member).1, (settled frame member).2⟩
    rw [← ended_ended seen index outcome] at noted settledToo
    simp only [step, noted]
    by_cases finished : ∀ frame ∈ batch, frame.index ∈
        Dispatch.ended (seen ++ [.heard (.ended index outcome)])
    · have insideToo : Dispatch.ended (seen ++ [.heard (.ended index outcome)]) ⊆
          begun (seen ++ [.heard (.ended index outcome)]) := by
        simpa using ⟨inside, here⟩
      have nothing : waiting = [] := by
        refine waiting_eq_nil ?_ (called_heard seen (.ended index outcome) ▸ calls)
          (fun frame member => (settledToo frame member).1) finished insideToo
        exact (whole ▸ distinct).sublist (by simp)
      subst nothing
      rw [outcomes?_eq_some assigned finished]
      exact phase_settle numbered whole place full (by simpa using calls) settledToo finished
        insideToo
    · push Not at finished
      rw [outcomes?_eq_none assigned finished]
      simpa using Phase.calling whole place full
        (called_heard seen (.ended index outcome) ▸ calls) settledToo finished
  | completed calls settled =>
    rw [begun, calls] at here
    obtain ⟨frame, member, rfl⟩ := List.mem_map.mp here
    exact absurd (settled frame member).1 unended
  | @failed earlier done batch later index error whole place full calls past fine failure =>
    rw [begun, calls] at here
    obtain ⟨frame, member, rfl⟩ := List.mem_map.mp here
    exact absurd (past frame member) unended

/-! ## Runs -/

/-- Every run begins each call once at most, never pauses, and is in a phase. -/
theorem Run.phases (numbered : IsNumbered frames)
    (run : Run (.batched size) frames seen state due) :
    (begun seen).Nodup ∧ paused seen = 0 ∧
      ∀ assigned, Answers assigned frames seen → Phase assigned size frames seen state due := by
  have distinct := nodup_index numbered
  -- A phase is relative to what the calls come to, which can be assigned to the frames only because
  -- no call begins twice, and that no call does follows from the phase: so both go together.
  induction run with
  | start =>
    refine ⟨List.nodup_nil, rfl, fun assigned _ => ?_⟩
    rw [start_eq_launch numbered.misnumbered?, fresh_eq_recorded assigned frames]
    exact phase_launch distinct rfl (.inl (by simp)) rfl (by simp) (by simp [Dispatch.ended])
  | @act seen state act due before ih =>
    obtain ⟨once, unpaused, phases⟩ := ih
    obtain ⟨assigned, answers⟩ := before.exists_answers once
    obtain ⟨frame, rfl⟩ := (phases assigned answers).exists_call List.mem_cons_self
    refine ⟨(phases assigned answers).act.nodup_begun distinct, by simpa using unpaused, ?_⟩
    exact fun assigned answers => (phases assigned answers.of_append).act
  | @event seen state due event before awaited ih =>
    obtain ⟨once, unpaused, phases⟩ := ih
    refine ⟨by simpa using once, by simpa using unpaused, fun assigned answers => ?_⟩
    cases event with
    | resumed =>
      have room : resumed seen < paused seen := awaited
      omega
    | ended index outcome =>
      obtain ⟨here, unended⟩ := (awaits_ended_iff once).mp awaited
      exact (phases assigned answers.of_append).ended numbered here unended before.ended_subset
        answers

/-- A run in which the calls come to what is assigned to their frames is in a phase. -/
theorem Run.phase (run : Run (.batched size) frames seen state due)
    (numbered : IsNumbered frames) (answers : Answers assigned frames seen) :
    Phase assigned size frames seen state due :=
  (run.phases numbered).2.2 assigned answers

end FrameCourier.Dispatch
