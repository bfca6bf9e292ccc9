import FrameCourier.Proofs.Dispatch.Numbering

/-!
# How a dispatch fills its slots

A batch is the next stretch of the frames, and its outcomes are recorded in the order of its
frames, whatever order they came in.  Frames that are numbered from 1 fill the slots one after
the other, so nothing is ever recorded outside the job or twice.
-/

namespace FrameCourier.Dispatch

/-! ## Batches -/

/-- The next batch is as long as it can be. -/
theorem batches_eq_take_drop {α : Type} {width : Nat} (positive : 0 < width) {items : List α}
    (some : items ≠ []) :
    batches width items = items.take width :: batches width (items.drop width) := by
  obtain ⟨first, rest, rfl⟩ := List.exists_cons_of_ne_nil some
  obtain ⟨less, rfl⟩ : ∃ less, width = less + 1 := ⟨width - 1, by omega⟩
  rw [batches]
  rfl

/-- With no frames left, a dispatch has its job. -/
theorem launch_nil (policy : Policy) (begun width : Nat) (job : Job) :
    launch ⟨policy, begun, batches width [], job⟩ = (.finished (.ok job), []) := by
  simp [launch, batches]

/-- With frames left, the next batch begins. -/
theorem launch_batches {width : Nat} (positive : 0 < width) {rest : List Frame} (some : rest ≠ [])
    (policy : Policy) (begun : Nat) (job : Job) :
    launch ⟨policy, begun, batches width rest, job⟩ =
      (.calling ((rest.take width).map fun frame => ⟨frame, none⟩)
        ⟨policy, begun + 1, batches width (rest.drop width), job⟩,
        (rest.take width).map .call) := by
  rw [batches_eq_take_drop positive some]
  rfl

/-- Frames that pass for numbered are put in batches. -/
theorem start_eq_launch {frames : List Frame} (passes : misnumbered? frames = none)
    (policy : Policy) :
    start policy frames = launch ⟨policy, 0, batchesOf policy frames, .fresh frames.length⟩ := by
  simp only [start, passes]

/-! ## Slots -/

/-- What the outcome of a call leaves in the slot of its frame. -/
def slotOf : Outcome → Slot
  | .ok report => .completed report
  | .error error => .failed error.message

theorem ofOutcome_mapError (outcome : Outcome) :
    .ofOutcome (outcome.mapError Client.Error.message) = slotOf outcome := by
  cases outcome <;> rfl

/-- A job of which the frames in `done` were attempted and those in `later` were not. -/
def recorded (assigned : Frame → Outcome) (done later : List Frame) : Job :=
  ⟨done.map (fun frame => slotOf (assigned frame)) ++ List.replicate later.length .pending⟩

theorem isPending_slotOf (outcome : Outcome) : (slotOf outcome).isPending = false := by
  cases outcome <;> rfl

/-- A call succeeds if the service reports success; an error that it reports is a failure, like a
call that has no report. -/
def succeeds (outcome : Outcome) : Bool :=
  match outcome with
  | .ok report => report.isSuccess
  | .error _ => false

theorem isSuccess_slotOf (outcome : Outcome) : (slotOf outcome).isSuccess = succeeds outcome := by
  cases outcome <;> rfl

theorem isSuccess_pending : Slot.pending.isSuccess = false := rfl

theorem isPending_pending : Slot.pending.isPending = true := rfl

theorem fresh_eq_recorded (assigned : Frame → Outcome) (frames : List Frame) :
    Job.fresh frames.length = recorded assigned [] frames := rfl

/-- How far a job is tells the successes among the attempted frames, and their number. -/
theorem progress_recorded (assigned : Frame → Outcome) (done later : List Frame) :
    (recorded assigned done later).progress =
      ⟨done.countP fun frame => succeeds (assigned frame),
        done.length - done.countP fun frame => succeeds (assigned frame),
        done.length + later.length⟩ := by
  have succeeded : (recorded assigned done later).slots.countP Slot.isSuccess =
      done.countP fun frame => succeeds (assigned frame) := by
    simp [recorded, List.countP_append, List.countP_map, Function.comp_def, isSuccess_slotOf,
      List.countP_replicate, isSuccess_pending]
  have pending : (recorded assigned done later).slots.countP Slot.isPending = later.length := by
    simp [recorded, List.countP_append, List.countP_map, Function.comp_def, isPending_slotOf,
      List.countP_replicate, isPending_pending]
  have total : (recorded assigned done later).total = done.length + later.length := by
    simp [recorded, Job.total]
  simp only [Job.progress, succeeded, pending, total, Progress.mk.injEq, true_and, and_true]
  omega

/-! ## Recording -/

/-- The frame after those that were attempted is recorded behind them. -/
theorem record_next (slots : List Slot) (rest : List Slot) {index : UInt32}
    (place : index.toNat = slots.length + 1) (outcome : Except String Report) :
    Job.record ⟨slots ++ .pending :: rest⟩ index outcome =
      .ok ⟨slots ++ .ofOutcome outcome :: rest⟩ := by
  have nonzero : index ≠ 0 := by
    rintro rfl
    simp at place
  have position : index.toNat - 1 = slots.length := by omega
  simp [Job.record, Job.slot?, nonzero, position]

/-- The outcomes of a batch fill the slots of its frames. -/
theorem recordAll_batch (assigned : Frame → Outcome) {done batch later : List Frame}
    (numbered : IsNumbered (done ++ batch ++ later)) :
    recordAll (recorded assigned done (batch ++ later))
        (batch.map fun frame => (frame.index, assigned frame)) =
      .ok (recorded assigned (done ++ batch) later) := by
  induction batch generalizing done with
  | nil => simp [recordAll]
  | cons frame batch ih =>
    have numberedHere : IsNumbered (done ++ frame :: (batch ++ later)) := by
      simpa using numbered
    have place := index_append numberedHere
    have next : Job.record (recorded assigned done (frame :: batch ++ later)) frame.index
        ((assigned frame).mapError Client.Error.message) =
        .ok (recorded assigned (done ++ [frame]) (batch ++ later)) := by
      have filled := record_next (done.map fun frame => slotOf (assigned frame))
        (List.replicate (batch ++ later).length .pending) (by simpa using place)
        ((assigned frame).mapError Client.Error.message)
      simpa [recorded, List.replicate_succ, ofOutcome_mapError] using filled
    have numberedToo : IsNumbered (done ++ [frame] ++ batch ++ later) := by
      simpa using numbered
    rw [List.map_cons, recordAll, next]
    simpa using ih numberedToo

/-! ## The calls of a batch -/

/-- The calls of a batch of which those with the numbers `past` have ended. -/
def underway (assigned : Frame → Outcome) (past : List UInt32) (batch : List Frame) : List Call :=
  batch.map fun frame => ⟨frame, if frame.index ∈ past then some (assigned frame) else none⟩

/-- The end of a call is noted with the call. -/
theorem note_underway {assigned : Frame → Outcome} {past : List UInt32} {index : UInt32}
    (unfinished : index ∉ past) {outcome : Outcome} {batch : List Frame}
    (answer : ∀ frame ∈ batch, frame.index = index → outcome = assigned frame)
    (distinct : (batch.map Frame.index).Nodup) :
    note index outcome (underway assigned past batch) =
      underway assigned (past ++ [index]) batch := by
  induction batch with
  | nil => rfl
  | cons frame batch ih =>
    obtain ⟨apart, distinct⟩ := List.nodup_cons.mp distinct
    by_cases same : frame.index = index
    · have others : underway assigned (past ++ [index]) batch = underway assigned past batch := by
        apply List.map_congr_left
        intro other member
        have otherIndex : other.index ≠ index := fun equal =>
          apart (same ▸ equal ▸ List.mem_map_of_mem member)
        simp [otherIndex]
      have first := answer frame List.mem_cons_self same
      have noted : note index outcome (⟨frame, none⟩ :: underway assigned past batch) =
          ⟨frame, some outcome⟩ :: underway assigned past batch := by
        simp [note, same]
      have before : underway assigned past (frame :: batch) =
          ⟨frame, none⟩ :: underway assigned past batch := by
        simp [underway, same, unfinished]
      have after : underway assigned (past ++ [index]) (frame :: batch) =
          ⟨frame, some outcome⟩ :: underway assigned (past ++ [index]) batch := by
        simp [underway, same, first]
      rw [before, noted, after, others]
    · have rest := ih (fun other member => answer other (List.mem_cons_of_mem _ member)) distinct
      simp only [underway, List.map_cons, note] at rest ⊢
      simp [same, rest]

/-- As long as a call has not ended, its batch has no outcomes. -/
theorem outcomes?_eq_none (assigned : Frame → Outcome) {past : List UInt32} {batch : List Frame}
    (unfinished : ∃ frame ∈ batch, frame.index ∉ past) :
    outcomes? (underway assigned past batch) = none := by
  obtain ⟨frame, member, unfinished⟩ := unfinished
  induction batch with
  | nil => cases member
  | cons first batch ih =>
    simp only [outcomes?, underway, List.map_cons, List.mapM_cons] at ih ⊢
    rcases List.mem_cons.mp member with rfl | member
    · simp [unfinished]
    · rw [ih member]
      split <;> simp

/-- Once all its calls have ended, a batch has its outcomes in the order of its frames. -/
theorem outcomes?_eq_some (assigned : Frame → Outcome) {past : List UInt32} {batch : List Frame}
    (finished : ∀ frame ∈ batch, frame.index ∈ past) :
    outcomes? (underway assigned past batch) =
      some (batch.map fun frame => (frame.index, assigned frame)) := by
  induction batch with
  | nil => rfl
  | cons frame batch ih =>
    have rest := ih fun other member => finished other (List.mem_cons_of_mem _ member)
    simp only [outcomes?, underway, List.map_cons, List.mapM_cons] at rest ⊢
    rw [rest]
    simp [finished frame List.mem_cons_self]

/-! ## The first failure -/

theorem firstFailure?_eq_none_iff (assigned : Frame → Outcome) (batch : List Frame) :
    firstFailure? (batch.map fun frame => (frame.index, assigned frame)) = none ↔
      ∀ frame ∈ batch, ∃ report, assigned frame = .ok report := by
  induction batch with
  | nil => simp [firstFailure?]
  | cons frame batch ih =>
    cases outcome : assigned frame with
    | ok report => simp [firstFailure?, outcome, ih]
    | error error => simp [firstFailure?, outcome]

/-- The failure that a batch is said to have is that of its first frame without a report. -/
theorem exists_of_firstFailure?_eq_some {assigned : Frame → Outcome} {batch : List Frame}
    {index : UInt32} {error : Client.Error}
    (failure : firstFailure? (batch.map fun frame => (frame.index, assigned frame)) =
      some (index, error)) :
    ∃ before frame later, batch = before ++ frame :: later ∧ frame.index = index ∧
      assigned frame = .error error ∧
      ∀ earlier ∈ before, ∃ report, assigned earlier = .ok report := by
  induction batch with
  | nil => cases failure
  | cons frame batch ih =>
    cases outcome : assigned frame with
    | error source =>
      simp only [List.map_cons, firstFailure?, outcome, Option.some.injEq, Prod.mk.injEq] at failure
      exact ⟨[], frame, batch, rfl, failure.1, failure.2 ▸ outcome, by simp⟩
    | ok report =>
      simp only [List.map_cons, firstFailure?, outcome] at failure
      obtain ⟨before, failing, later, rfl, same, source, fine⟩ := ih failure
      refine ⟨frame :: before, failing, later, rfl, same, source, ?_⟩
      intro earlier member
      rcases List.mem_cons.mp member with rfl | member
      · exact ⟨report, outcome⟩
      · exact fine earlier member

end FrameCourier.Dispatch
