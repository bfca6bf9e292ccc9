import FrameCourier.Proofs.Dispatch.Batched
import Mathlib.Data.List.Perm.Subperm

/-!
# What a dispatch in batches comes to

Whatever its calls come to and in whatever order they end, a dispatch in batches ends.  It has a
complete job if no call fails.  Otherwise it fails with the batch of the first frame whose call
does, and no later batch begins; the job is as far then as the last frame of that batch.
-/

namespace FrameCourier.Dispatch

variable {assigned : Frame → Outcome} {size : Nat} {frames : List Frame} {seen : List Occurrence}
  {state : State} {due : List Act}

/-- The number of a frame's batch, from 1. -/
def batchOf (size : Nat) (index : UInt32) : Nat := (index.toNat - 1) / max 1 size + 1

/-- The number of frames up to the end of a frame's batch. -/
def reached (size : Nat) (frames : List Frame) (index : UInt32) : Nat :=
  min (batchOf size index * max 1 size) frames.length

/-- The first frame whose call fails, and how. -/
structure FailsFirst (assigned : Frame → Outcome) (frames : List Frame) (frame : Frame)
    (error : Client.Error) : Prop where
  member : frame ∈ frames
  failure : assigned frame = .error error
  fine : ∀ earlier ∈ frames, earlier.index < frame.index →
    ∃ report, assigned earlier = .ok report

theorem FailsFirst.not_fine {frame : Frame} {error : Client.Error}
    (first : FailsFirst assigned frames frame error) :
    ¬ ∀ frame ∈ frames, ∃ report, assigned frame = .ok report := by
  intro fine
  obtain ⟨report, outcome⟩ := fine frame first.member
  rw [first.failure] at outcome
  cases outcome

/-- The frames before the first failure are those of the earlier batches and the first ones of its
own. -/
theorem failsFirst_of_append {before later : List Frame} {frame : Frame} {error : Client.Error}
    (numbered : IsNumbered (before ++ frame :: later))
    (failure : assigned frame = .error error)
    (fine : ∀ earlier ∈ before, ∃ report, assigned earlier = .ok report) :
    FailsFirst assigned (before ++ frame :: later) frame error := by
  refine ⟨by simp, failure, fun earlier member less => ?_⟩
  have place := index_append numbered
  have smaller := UInt32.lt_iff_toNat_lt.mp less
  exact fine earlier ((index_le_length_iff numbered member).mp (by omega))

/-- A run in batches has no more begins than frames, and no more ends than begins. -/
theorem Run.bounded (numbered : IsNumbered frames)
    (run : Run (.batched size) frames seen state due) :
    seen.length ≤ 2 * frames.length ∧ called seen ⊆ frames := by
  obtain ⟨once, unpaused, phases⟩ := run.phases numbered
  obtain ⟨assigned, answers⟩ := run.exists_answers once
  have initial := (phases assigned answers).called_initial
  have calls : (begun seen).length ≤ frames.length := by
    simpa [begun] using initial.length_le
  have ends : (ended seen).length ≤ (begun seen).length :=
    (List.subperm_of_subset (run.nodup_ended once) run.ended_subset).length_le
  have pauses := run.resumed_le
  have length := length_eq seen
  exact ⟨by omega, initial.subset⟩

theorem Run.goesOn_batched (numbered : IsNumbered frames)
    (run : Run (.batched size) frames seen state due) (answers : Answers assigned frames seen) :
    GoesOn (.batched size) assigned frames seen :=
  run.goesOn (fun other _ => other.bounded numbered) (nodup_index numbered) answers

/-- While a batch is under way, a run is not over. -/
theorem not_isOver_calling {batch done waiting : List Frame} (once : (begun seen).Nodup)
    (calls : called seen ++ waiting = done ++ batch)
    (unfinished : ∃ frame ∈ batch, frame.index ∉ ended seen) :
    ¬ IsOver seen (waiting.map .call) := by
  intro past
  have nothing : waiting = [] := List.map_eq_nil_iff.mp past.done
  obtain ⟨frame, member, unended⟩ := unfinished
  rw [nothing, List.append_nil] at calls
  have here : frame.index ∈ begun seen := by
    rw [begun, calls]
    exact List.mem_map_of_mem (List.mem_append_right done member)
  have awaited : Awaits seen (.ended frame.index (.error (.connectionEnded 0))) :=
    (awaits_ended_iff once).mpr ⟨here, unended⟩
  exact past.silent _ awaited

/-- The numbers of the frames of a batch tell the number of the batch and how far it reaches. -/
theorem batch_numbers {done batch later : List Frame} {frame : Frame} {earlier : Nat}
    (numbered : IsNumbered (done ++ batch ++ later))
    (place : done.length = earlier * max 1 size)
    (full : batch.length = min (max 1 size) (batch ++ later).length) (member : frame ∈ batch) :
    batchOf size frame.index = earlier + 1 ∧
      reached size (done ++ batch ++ later) frame.index = (done ++ batch).length := by
  obtain ⟨ahead, behind, rfl⟩ := List.append_of_mem member
  have numberedHere : IsNumbered ((done ++ ahead) ++ frame :: (behind ++ later)) := by
    simpa using numbered
  have index := index_append numberedHere
  simp only [List.length_append, List.length_cons] at index full
  have batch : batchOf size frame.index = earlier + 1 := by
    rw [batchOf, Nat.add_right_cancel_iff, Nat.div_eq_iff (by omega)]
    omega
  refine ⟨batch, ?_⟩
  simp only [reached, batch, Nat.succ_mul, List.length_append, List.length_cons]
  omega

/-- What is reported of the first failure: its error, and how far the job is when its batch, and no
later one, has ended. -/
structure Aborted (assigned : Frame → Outcome) (size : Nat) (frames : List Frame)
    (seen : List Occurrence) (frame : Frame) (error : Client.Error) (progress : Progress) :
    Prop where
  first : FailsFirst assigned frames frame error
  total : progress.total = frames.length
  succeeded : progress.succeeded = (frames.take (reached size frames frame.index)).countP
    fun frame => succeeds (assigned frame)
  attempted : progress.succeeded + progress.failed = reached size frames frame.index
  calls : called seen = frames.take (reached size frames frame.index)

/-- A dispatch fails with the first failure among its frames, at the end of that frame's batch. -/
theorem exists_aborted (numbered : IsNumbered frames) {earlier : Nat}
    {done batch later : List Frame} {index : UInt32} {error : Client.Error}
    (whole : done ++ batch ++ later = frames)
    (place : done.length = earlier * max 1 size)
    (full : batch.length = min (max 1 size) (batch ++ later).length)
    (calls : called seen = done ++ batch)
    (fine : ∀ frame ∈ done, ∃ report, assigned frame = .ok report)
    (failure : firstFailure? (batch.map fun frame => (frame.index, assigned frame)) =
      some (index, error)) :
    ∃ frame, frame.index = index ∧ batchOf size index = earlier + 1 ∧
      Aborted assigned size frames seen frame error
        (recorded assigned (done ++ batch) later).progress := by
  obtain ⟨ahead, frame, behind, split, rfl, source, aheadFine⟩ :=
    exists_of_firstFailure?_eq_some failure
  have member : frame ∈ batch := by simp [split]
  have attempted : frames.take (done ++ batch).length = done ++ batch := by
    rw [← whole, List.take_left']
    rfl
  obtain ⟨number, reached⟩ := batch_numbers (whole.symm ▸ numbered) place full member
  rw [whole] at reached
  refine ⟨frame, rfl, number, ?_, ?_, ?_, ?_, ?_⟩
  · have apart : frames = (done ++ ahead) ++ frame :: (behind ++ later) := by
      simp [← whole, split]
    rw [apart] at numbered ⊢
    refine failsFirst_of_append numbered source fun other member => ?_
    exact (List.mem_append.mp member).elim (fine other) (aheadFine other)
  · rw [progress_recorded, ← whole]
    exact List.length_append.symm
  · rw [progress_recorded, reached, attempted]
  · have bound : (done ++ batch).countP (fun frame => succeeds (assigned frame)) ≤
        (done ++ batch).length := List.countP_le_length
    rw [progress_recorded, reached]
    simp only
    omega
  · rw [reached, attempted, calls]

/-- When a run is over, either no call fails and every frame has its outcome, or the dispatch has
failed with the first failure. -/
theorem Phase.isOver_cases (phase : Phase assigned size frames seen state due)
    (numbered : IsNumbered frames) (past : IsOver seen due) :
    ((∀ frame ∈ frames, ∃ report, assigned frame = .ok report) ∧
      state = .finished (.ok (recorded assigned frames [])) ∧ called seen = frames) ∨
    ∃ frame error progress, Aborted assigned size frames seen frame error progress ∧
      state = .finished (.error (.batchFailed (batchOf size frame.index) frame.index progress
        error)) := by
  have once := phase.nodup_begun (nodup_index numbered)
  cases phase with
  | calling whole place full calls settled unfinished =>
    exact absurd past (not_isOver_calling once calls unfinished)
  | completed calls settled =>
    exact .inl ⟨fun frame member => (settled frame member).2, rfl, calls⟩
  | failed whole place full calls past fine failure =>
    obtain ⟨frame, rfl, number, aborted⟩ :=
      exists_aborted numbered whole place full calls fine failure
    exact .inr ⟨frame, _, _, aborted, by rw [number]⟩

/-- A dispatch that has a result waits for no call. -/
theorem Phase.ended_of_finished {result : Except Error Job}
    (phase : Phase assigned size frames seen (.finished result) due) :
    due = [] ∧ begun seen ⊆ Dispatch.ended seen := by
  cases phase with
  | completed calls settled =>
    refine ⟨rfl, fun index member => ?_⟩
    rw [begun, calls] at member
    obtain ⟨frame, here, rfl⟩ := List.mem_map.mp member
    exact (settled frame here).1
  | failed whole place full calls past fine failure =>
    refine ⟨rfl, fun index member => ?_⟩
    rw [begun, calls] at member
    obtain ⟨frame, here, rfl⟩ := List.mem_map.mp member
    exact past frame here

/-- A run is over as soon as the dispatch has a result. -/
theorem Phase.isOver_iff (phase : Phase assigned size frames seen state due)
    (numbered : IsNumbered frames) (unpaused : paused seen = 0) :
    IsOver seen due ↔ ∃ result, state = .finished result := by
  constructor
  · intro past
    rcases phase.isOver_cases numbered past with ⟨-, same, -⟩ | ⟨frame, error, progress, -, same⟩
    · exact ⟨_, same⟩
    · exact ⟨_, same⟩
  · rintro ⟨result, rfl⟩
    obtain ⟨rfl, inside⟩ := phase.ended_of_finished
    have once := phase.nodup_begun (nodup_index numbered)
    refine isOver_of_ended (fun index => ?_) (unpaused ▸ Nat.zero_le _)
    exact (List.subperm_of_subset once inside).count_le index

/-- Every run of a dispatch in batches ends, without an error of its job.  Then it has a job if no
call fails, and has called on each frame once; otherwise it has failed with the first failure, and
has called once on each frame up to the end of that frame's batch and on no other. -/
theorem batched_result (numbered : IsNumbered frames) (assigned : Frame → Outcome)
    (run : Run (.batched size) frames seen state due) (answers : Answers assigned frames seen) :
    seen.length ≤ 2 * frames.length ∧
    GoesOn (.batched size) assigned frames seen ∧
    (∀ error, state ≠ .finished (.error (.job error))) ∧
    (IsOver seen due ↔ ∃ result, state = .finished result) ∧
    (IsOver seen due →
      ((∃ job, state = .finished (.ok job)) ↔
        ∀ frame ∈ frames, ∃ report, assigned frame = .ok report) ∧
      ((∃ job, state = .finished (.ok job)) → called seen = frames) ∧
      ((¬ ∀ frame ∈ frames, ∃ report, assigned frame = .ok report) →
        ∃ frame error progress, Aborted assigned size frames seen frame error progress ∧
          state = .finished (.error (.batchFailed (batchOf size frame.index) frame.index progress
            error)))) := by
  have phase := run.phase numbered answers
  have unpaused := (run.phases numbered).2.1
  refine ⟨(run.bounded numbered).1, run.goesOn_batched numbered answers, ?_,
    phase.isOver_iff numbered unpaused, fun past => ?_⟩
  · intro error same
    cases phase <;> cases same
  · rcases phase.isOver_cases numbered past with
      ⟨fine, rfl, calls⟩ | ⟨frame, error, progress, aborted, same⟩
    · exact ⟨⟨fun _ => fine, fun _ => ⟨_, rfl⟩⟩, fun _ => calls, fun unfine => absurd fine unfine⟩
    · have unfine := aborted.first.not_fine
      have noJob : ¬ ∃ job, state = .finished (.ok job) := by
        rintro ⟨job, finished⟩
        rw [same] at finished
        cases finished
      exact ⟨⟨fun job => absurd job noJob, fun fine => absurd fine unfine⟩,
        fun job => absurd job noJob, fun _ => ⟨frame, error, progress, aborted, same⟩⟩

/-! ## A batch with a failure -/

/-- One second after the start of 1970. -/
def firstSecond : Time.Instant := ⟨1, 0, by decide +kernel⟩

/-- Frames of one byte. -/
def shortVideo (count : Nat) : List Frame :=
  Frame.ofImages (List.replicate count [0xFF]) "jpg" firstSecond

/-- A call whose connection ends without a response. -/
def lostCall : Outcome := .error (.connectionEnded 0)

/-- A call that reports success, with nothing found. -/
def emptyReport : Outcome := .ok ⟨.success, 0, [], none, firstSecond, none⟩

/-- The call for the second frame is lost. -/
def loseSecond (frame : Frame) : Outcome := if frame.index = 2 then lostCall else emptyReport

/-- The calls for the first two frames, of which the second ends first. -/
def secondFirst (second : Outcome) : List Occurrence :=
  ((shortVideo 2).map fun frame => .did (.call frame)) ++
    [.heard (.ended 2 second), .heard (.ended 1 emptyReport)]

theorem isNumbered_shortVideo : IsNumbered (shortVideo 3) := by
  rw [isNumbered_iff]
  decide +kernel

/-- So begins a dispatch of three frames in batches of two. -/
theorem run_secondFirst (second : Outcome) :
    let next := run (start (.batched 2) (shortVideo 3)).1 [.ended 2 second, .ended 1 emptyReport]
    Run (.batched 2) (shortVideo 3) (secondFirst second) next.1 next.2 := by
  intro next
  have opened : (start (.batched 2) (shortVideo 3)).2 = (shortVideo 2).map .call := by
    decide +kernel
  have fresh : Run (.batched 2) (shortVideo 3) [] _ _ := .start
  rw [opened] at fresh
  have called := fresh.doAll
  have secondAwaited : Awaits ([] ++ ((shortVideo 2).map .call).map .did) (.ended 2 second) := by
    change List.count 2 _ < List.count 2 _
    decide +kernel
  have firstAwaited : Awaits ([] ++ ((shortVideo 2).map .call).map .did ++
      [.heard (.ended 2 second)]) (.ended 1 emptyReport) := by
    change List.count 1 (ended _) < List.count 1 (begun _)
    rw [ended_ended, begun_heard]
    decide +kernel
  simpa [secondFirst, next, Dispatch.run, Function.comp_def] using
    (called.event secondAwaited).event firstAwaited

/-- Of three frames in batches of two the second is lost: the first batch is reported with its one
success, and the third frame is never called on. -/
theorem batched_result_secondLost :
    IsNumbered (shortVideo 3) ∧
    ∃ state, Run (.batched 2) (shortVideo 3) (secondFirst lostCall) state [] ∧
      Answers loseSecond (shortVideo 3) (secondFirst lostCall) ∧
      ∃ frame error progress,
        Aborted loseSecond 2 (shortVideo 3) (secondFirst lostCall) frame error progress ∧
        state = .finished (.error (.batchFailed (batchOf 2 frame.index) frame.index progress
          error)) := by
  obtain ⟨state, due, run, quiet⟩ : ∃ state due,
      Run (.batched 2) (shortVideo 3) (secondFirst lostCall) state due ∧ due = [] :=
    ⟨_, _, run_secondFirst lostCall, by decide +kernel⟩
  subst quiet
  have answers : Answers loseSecond (shortVideo 3) (secondFirst lostCall) := by
    intro frame _ outcome here
    have cases : (frame.index = 2 ∧ outcome = lostCall) ∨
        (frame.index = 1 ∧ outcome = emptyReport) := by
      simpa [secondFirst] using here
    rcases cases with ⟨index, rfl⟩ | ⟨index, rfl⟩ <;> simp [loseSecond, index]
  have same : (begun (secondFirst lostCall)).Perm (ended (secondFirst lostCall)) := by
    decide +kernel
  have past : IsOver (secondFirst lostCall) [] :=
    isOver_of_ended (fun index => (same.count_eq index).le) (Nat.le_refl 0)
  have lost : ¬ ∀ frame ∈ shortVideo 3, ∃ report, loseSecond frame = .ok report := by
    intro fine
    obtain ⟨report, outcome⟩ := fine (.ofImage 2 [0xFF] "jpg" firstSecond) (by decide +kernel)
    cases outcome
  obtain ⟨-, -, -, -, result⟩ := batched_result isNumbered_shortVideo loseSecond run answers
  exact ⟨isNumbered_shortVideo, state, run, answers, (result past).2.2 lost⟩

end FrameCourier.Dispatch
