import FrameCourier.Dispatch.Basic
import FrameCourier.Proofs.Number.Counting

/-!
# Numbered frames

Frames are numbered from 1 if each has its place in the list for its number.  Places are counted
in 32 bits, so a list that is longer than there are numbers passes for numbered if its numbers
begin anew; every shorter one passes only if it is.
-/

namespace FrameCourier

variable {frames : List Frame}

/-- The numbers of frames are 1, 2, 3 and so on. -/
def IsNumbered (frames : List Frame) : Prop := IsCount 1 (frames.map Frame.index)

theorem misnumberedFrom?_eq_none_iff {first : Nat} :
    misnumberedFrom? first frames = none ↔ CountsFrom first (frames.map Frame.index) := by
  induction frames generalizing first with
  | nil => exact iff_of_true rfl rfl
  | cons frame frames ih =>
    rw [misnumberedFrom?, List.map_cons, countsFrom_cons, ← ih]
    split
    · next same => simp [same]
    · next apart => simp [apart]

theorem misnumbered?_eq_none_iff :
    misnumbered? frames = none ↔ CountsFrom 1 (frames.map Frame.index) :=
  misnumberedFrom?_eq_none_iff

theorem IsNumbered.misnumbered? (numbered : IsNumbered frames) : misnumbered? frames = none :=
  misnumbered?_eq_none_iff.mpr numbered.countsFrom

/-- Frames that pass for numbered are, if they are not too many. -/
theorem isNumbered_iff :
    IsNumbered frames ↔ misnumbered? frames = none ∧ frames.length < 2 ^ 32 := by
  rw [IsNumbered, isCount_one_iff, misnumbered?_eq_none_iff, List.length_map]

/-- What is reported of misnumbered frames is the first place with a number of its own. -/
theorem exists_of_misnumberedFrom? {first : Nat} {fault : Misnumbered}
    (misnumbered : misnumberedFrom? first frames = some fault) :
    ∃ before frame later, frames = before ++ frame :: later ∧
      CountsFrom first (before.map Frame.index) ∧
      frame.index ≠ UInt32.ofNat (first + before.length) ∧
      fault = ⟨UInt32.ofNat (first + before.length), frame.index⟩ := by
  induction frames generalizing first with
  | nil => cases misnumbered
  | cons frame frames ih =>
    rw [misnumberedFrom?] at misnumbered
    split at misnumbered
    · next same =>
      obtain ⟨before, found, later, rfl, counts, apart, rfl⟩ := ih misnumbered
      have place : first + 1 + before.length = first + (frame :: before).length := by
        rw [List.length_cons]
        omega
      rw [place] at apart ⊢
      exact ⟨frame :: before, found, later, rfl, countsFrom_cons.mpr ⟨same, counts⟩, apart, rfl⟩
    · next apart =>
      exact ⟨[], frame, frames, rfl, rfl, apart, (Option.some.inj misnumbered).symm⟩

/-- The numbers of frames that are numbered from 1 are all different. -/
theorem nodup_index (numbered : IsNumbered frames) : (frames.map Frame.index).Nodup :=
  IsCount.nodup numbered

theorem index_getElem (numbered : IsNumbered frames) {position : Nat}
    (inside : position < frames.length) : frames[position].index.toNat = position + 1 := by
  have insideIndices : position < (frames.map Frame.index).length := by simpa using inside
  have place := IsCount.getElem numbered insideIndices
  rw [List.getElem_map] at place
  omega

theorem index_ne_zero_of_mem (numbered : IsNumbered frames) {frame : Frame}
    (member : frame ∈ frames) : frame.index ≠ 0 := by
  obtain ⟨position, placed, rfl⟩ := List.getElem_of_mem member
  intro zero
  have place := index_getElem numbered placed
  rw [zero] at place
  cases place

/-- The number of a frame tells how many frames stand before it. -/
theorem index_append {before later : List Frame} {frame : Frame}
    (numbered : IsNumbered (before ++ frame :: later)) :
    frame.index.toNat = before.length + 1 := by
  have inside : before.length < (before ++ frame :: later).length := by simp
  simpa using index_getElem numbered inside

/-- The numbers tell which frames stand in a first part of the list. -/
theorem index_le_length_iff {before later : List Frame}
    (numbered : IsNumbered (before ++ later)) {frame : Frame}
    (member : frame ∈ before ++ later) : frame.index.toNat ≤ before.length ↔ frame ∈ before := by
  constructor
  · intro small
    obtain ⟨position, inside, rfl⟩ := List.getElem_of_mem member
    rw [index_getElem numbered inside] at small
    rw [List.getElem_append_left small]
    exact List.getElem_mem small
  · intro here
    obtain ⟨ahead, behind, rfl⟩ := List.append_of_mem here
    have numberedHere : IsNumbered (ahead ++ frame :: (behind ++ later)) := by
      simpa using numbered
    have index := index_append numberedHere
    simp only [List.length_append, List.length_cons]
    omega

theorem getElem?_index_of_mem (numbered : IsNumbered frames) {frame : Frame}
    (inside : frame ∈ frames) : frames[frame.index.toNat - 1]? = some frame := by
  obtain ⟨position, placed, rfl⟩ := List.getElem_of_mem inside
  rw [index_getElem numbered placed, Nat.add_sub_cancel]
  exact List.getElem?_eq_getElem placed

/-- Frames of one number are one frame. -/
theorem eq_of_index_eq (numbered : IsNumbered frames) {frame other : Frame}
    (inside : frame ∈ frames) (insideToo : other ∈ frames) (same : frame.index = other.index) :
    frame = other := by
  have place := getElem?_index_of_mem numbered inside
  rw [same, getElem?_index_of_mem numbered insideToo] at place
  exact (Option.some.inj place).symm

/-- The images of a video pass for numbered, however many they are. -/
theorem misnumbered?_ofImages (images : List Bytes) (format : String) (now : Time.Instant) :
    misnumbered? (Frame.ofImages images format now) = none := by
  rw [misnumbered?_eq_none_iff, CountsFrom]
  refine List.ext_getElem (by simp [Frame.ofImages]) fun position inside _ => ?_
  simp [Frame.ofImages, Frame.ofImage, Nat.add_comm 1 position]

end FrameCourier
