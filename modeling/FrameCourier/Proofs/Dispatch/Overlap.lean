import FrameCourier.Proofs.Dispatch.Results
import FrameCourier.Proofs.Dispatch.Stages

/-!
# Batches do not overlap

At every point of a run, the calls under way are those of one batch, so they are never more than
the size of a batch.  A later batch begins when every call of the earlier ones has ended with a
report; whatever happens in a run happens batch after batch.
-/

namespace FrameCourier.Dispatch

variable {policy : Policy} {size : Nat} {frames : List Frame} {seen : List Occurrence}
  {state : State} {due : List Act} {index : UInt32}

/-- The number of the frame whose call begins or ends. -/
def Occurrence.index? : Occurrence → Option UInt32
  | did (.call frame) => some frame.index
  | heard (.ended index _) => some index
  | _ => none

/-- The numbers of the frames whose calls begin and end, in the order in which they do. -/
def touched (seen : List Occurrence) : List UInt32 := seen.filterMap Occurrence.index?

theorem Run.touched_subset (run : Run policy frames seen state due) :
    touched seen ⊆ begun seen := by
  intro index member
  obtain ⟨occurrence, here, same⟩ := List.mem_filterMap.mp member
  unfold Occurrence.index? at same
  split at same
  · next frame =>
    cases same
    exact List.mem_map_of_mem (List.mem_filterMap.mpr ⟨_, here, rfl⟩)
  · next index outcome =>
    cases same
    exact run.ended_subset (mem_ended_of_mem here)
  · cases same

/-! ## Frames that their numbers tell apart -/

section

variable (numbered : IsNumbered frames) (run : Run (.batched size) frames seen state due)

include numbered run

/-- A call that begins finds every call of the earlier batches ended with a report. -/
theorem Run.ended_of_call {before : List Occurrence} {frame : Frame}
    (last : seen = before ++ [.did (.call frame)]) {other : Frame} (member : other ∈ frames)
    (earlierBatch : batchOf size other.index < batchOf size frame.index) :
    ∃ report, .heard (.ended other.index (.ok report)) ∈ before := by
  obtain ⟨⟨later, whole⟩, -, reports⟩ := run.apart numbered.misnumbered?
  subst last
  rw [called_call] at whole reports
  have place : frame.index.toNat = (called before).length + 1 := by
    have numberedSo : IsNumbered (called before ++ frame :: later) := by
      rwa [List.append_cons, whole]
    exact index_append numberedSo
  simp only [batchOf, place, Nat.add_sub_cancel] at earlierBatch
  have beyond : (called before).length / max 1 size * max 1 size <
      (called before ++ [frame]).length := by
    have floor := Nat.div_mul_le_self (called before).length (max 1 size)
    rw [List.length_append, List.length_singleton]
    omega
  have inside : other.index ∈
      (frames.take ((called before).length / max 1 size * max 1 size)).map Frame.index := by
    have positive : 0 < max 1 size := by omega
    have behind := (Nat.div_lt_iff_lt_mul positive).mp (Nat.add_lt_add_iff_right.mp earlierBatch)
    obtain ⟨position, placed, rfl⟩ := List.getElem_of_mem member
    rw [index_getElem numbered placed, Nat.add_sub_cancel] at behind
    exact List.mem_map_of_mem (List.mem_take_iff_getElem.mpr ⟨position, by omega, rfl⟩)
  have reported := (reports _ beyond).subset inside
  simpa using exists_of_mem_reported reported

/-- What happens next happens in no earlier batch than anything before it. -/
theorem Run.batchOf_le (member : index ∈ frames.map Frame.index)
    (unended : index ∉ ended seen) {before : UInt32} (here : before ∈ touched seen) :
    batchOf size before ≤ batchOf size index := by
  obtain ⟨done, batch, later, past, present, earlier, window, begins⟩ :=
    run.exists_window numbered.misnumbered?
  have whole := window.whole
  subst whole
  obtain ⟨frame, inside, rfl⟩ := List.mem_map.mp member
  obtain ⟨other, begun, rfl⟩ := List.mem_map.mp (run.touched_subset here)
  have positive : 0 < max 1 size := by omega
  have place := window.place
  have small := window.small
  -- What has begun is not behind the batch under way, and what has not ended is not before it.
  have bound := (index_le_length_iff numbered
    (List.mem_append_left later (begins.subset begun))).mpr (begins.subset begun)
  have notDone : frame ∉ done := fun behind =>
    unended (window.ended_perm.mem_iff.mpr (List.mem_append_left _ (List.mem_map_of_mem behind)))
  rw [List.append_assoc] at numbered inside
  have above := mt (index_le_length_iff numbered inside).mp notDone
  have first : earlier ≤ (frame.index.toNat - 1) / max 1 size := by
    rw [Nat.le_div_iff_mul_le positive]
    omega
  have last : (other.index.toNat - 1) / max 1 size < earlier + 1 := by
    rw [Nat.div_lt_iff_lt_mul positive, Nat.succ_mul]
    rw [List.length_append] at bound
    omega
  simp only [batchOf]
  omega

/-- Every call begins once at most. -/
theorem Run.nodup_begun : (begun seen).Nodup :=
  (nodup_index numbered).sublist ((run.apart numbered.misnumbered?).1.sublist.map Frame.index)

end

theorem touched_append_of_none {occurrence : Occurrence} (none : occurrence.index? = none) :
    touched (seen ++ [occurrence]) = touched seen := by
  simp [touched, none]

/-- The order stays, if what happens next happens in no earlier batch than anything before it. -/
theorem pairwise_touched_append {occurrence : Occurrence}
    (order : (touched seen).Pairwise fun earlier later => batchOf size earlier ≤ batchOf size later)
    (next : occurrence.index? = some index)
    (late : ∀ {before}, before ∈ touched seen → batchOf size before ≤ batchOf size index) :
    (touched (seen ++ [occurrence])).Pairwise fun earlier later =>
      batchOf size earlier ≤ batchOf size later := by
  have append : touched (seen ++ [occurrence]) = touched seen ++ [index] := by
    simp [touched, next]
  rw [append, List.pairwise_append]
  refine ⟨order, List.pairwise_singleton _ _, fun earlier here later last => ?_⟩
  rw [List.mem_singleton.mp last]
  exact late here

/-- Calls begin and end batch after batch. -/
theorem Run.pairwise_touched (numbered : IsNumbered frames)
    (run : Run (.batched size) frames seen state due) :
    (touched seen).Pairwise fun earlier later => batchOf size earlier ≤ batchOf size later := by
  induction run with
  | start => exact .nil
  | @act seen state act due before ih =>
    cases act with
    | pause milliseconds => rwa [touched_append_of_none rfl]
    | call frame =>
      have once := before.act.nodup_begun numbered
      have inside := (before.act.apart numbered.misnumbered?).1.subset
      have member : frame.index ∈ frames.map Frame.index :=
        List.mem_map_of_mem (inside (by simp))
      have unended : frame.index ∉ ended seen := by
        intro past
        rw [begun_call] at once
        exact (List.nodup_append.mp once).2.2 _ (before.ended_subset past) _ (by simp) rfl
      exact pairwise_touched_append ih rfl (before.batchOf_le numbered member unended)
  | @event seen state due event before awaited ih =>
    cases event with
    | resumed => rwa [touched_append_of_none rfl]
    | ended index outcome =>
      obtain ⟨here, unended⟩ := (awaits_ended_iff (before.nodup_begun numbered)).mp awaited
      have member : index ∈ frames.map Frame.index :=
        List.map_subset Frame.index (before.apart numbered.misnumbered?).1.subset here
      exact pairwise_touched_append ih rfl (before.batchOf_le numbered member unended)

/-- At every point of a run of a dispatch in batches the frames are called on in their order, each
once at most; no more calls are under way than a batch may have; and beyond some batches a call
begins only after every call of these has ended with a report.  Where the numbers tell the frames
apart, they tell the same: a call begins after those of the earlier batches have ended with a
report, and nothing of a later batch happens before anything of an earlier one. -/
theorem batches_apart (run : Run (.batched size) frames seen state due) :
    (∀ before, before <+: seen →
      called before <+: frames ∧
      (begun before).length ≤ (ended before).length + max 1 size ∧
      ∀ batch, batch * max 1 size < (called before).length →
        ((frames.take (batch * max 1 size)).map Frame.index).Subperm (reported before)) ∧
    (frames.length < 2 ^ 32 →
      (begun seen).Nodup ∧
      (∀ before frame after, seen = before ++ .did (.call frame) :: after →
        ∀ other ∈ frames, batchOf size other.index < batchOf size frame.index →
          ∃ report, .heard (.ended other.index (.ok report)) ∈ before) ∧
      (touched seen).Pairwise fun earlier later =>
        batchOf size earlier ≤ batchOf size later) := by
  cases passes : misnumbered? frames with
  | some fault =>
    obtain ⟨rfl, -, -⟩ := run.of_misnumbered passes
    refine ⟨fun before initial => ?_, fun _ => ⟨List.nodup_nil, ?_, .nil⟩⟩
    · rw [List.prefix_nil.mp initial]
      exact ⟨List.nil_prefix, Nat.zero_le _, fun batch beyond => absurd beyond (Nat.not_lt_zero _)⟩
    · intro before frame after split
      simp at split
  | none =>
    refine ⟨fun before initial => ?_, fun few => ?_⟩
    · obtain ⟨after, rfl⟩ := initial
      obtain ⟨earlier, still, run⟩ := run.of_append
      exact run.apart passes
    · have numbered := isNumbered_iff.mpr ⟨passes, few⟩
      refine ⟨run.nodup_begun numbered, fun before frame after split => ?_,
        run.pairwise_touched numbered⟩
      rw [List.append_cons] at split
      subst split
      obtain ⟨earlier, still, run⟩ := run.of_append
      exact fun other member earlierBatch => run.ended_of_call numbered rfl member earlierBatch

/-- Of three frames in batches of two, the third is called on when the first two have their
reports. -/
theorem batches_apart_thirdBegun :
    ∃ seen state,
      seen = secondFirst emptyReport ++ [.did (.call (.ofImage 3 [0xFF] "jpg" firstSecond))] ∧
      Run (.batched 2) (shortVideo 3) seen state [] ∧
      (begun seen).length ≤ (ended seen).length + 2 ∧
      (begun seen).Nodup ∧
      (∀ other ∈ shortVideo 3, batchOf 2 other.index < batchOf 2 3 →
        ∃ report, .heard (.ended other.index (.ok report)) ∈ secondFirst emptyReport) ∧
      (touched seen).Pairwise fun earlier later => batchOf 2 earlier ≤ batchOf 2 later := by
  obtain ⟨state, due, run, third⟩ : ∃ state due,
      Run (.batched 2) (shortVideo 3) (secondFirst emptyReport) state due ∧
        due = [.call (.ofImage 3 [0xFF] "jpg" firstSecond)] :=
    ⟨_, _, run_secondFirst emptyReport, by decide +kernel⟩
  subst third
  obtain ⟨initial, numbered⟩ := batches_apart run.act
  obtain ⟨-, few, -⟩ := initial _ List.prefix_rfl
  obtain ⟨once, settled, order⟩ := numbered (by decide)
  refine ⟨_, state, rfl, run.act, few, once, ?_, order⟩
  exact settled _ (.ofImage 3 [0xFF] "jpg" firstSecond) [] rfl

end FrameCourier.Dispatch
