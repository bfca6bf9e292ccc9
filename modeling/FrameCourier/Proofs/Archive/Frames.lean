import FrameCourier.Proofs.Archive.Loading
import FrameCourier.Proofs.Base64
import FrameCourier.Proofs.Dispatch.Numbering
import FrameCourier.Proofs.Traversal

/-!
# Frames are loaded as they were stored

The record of a frame gives the frame back if its size is that of its payload, and no other
frame otherwise.  Frames that are numbered from 1 and stored in a folder without other frames of
their kind are loaded in their order, each with the time that is read for its own.
-/

namespace FrameCourier

/-- A frame with the time that is read for its own. -/
def Frame.reread (frame : Frame) : Frame := { frame with capturedAt := frame.capturedAt.reread }

namespace Archive

variable {path : String} {frame : Frame} {frames : List Frame}

/-- A frame as it is extracted or loaded: its payload is the image, and its size is that of the
payload. -/
structure IsPlain (frame : Frame) : Prop where
  raw : frame.encoding = .raw
  whole : frame.payload.length = frame.size.toNat

theorem IsPlain.reread (plain : IsPlain frame) : IsPlain frame.reread := ⟨plain.raw, plain.whole⟩

namespace Record

theorem finiteScores_ofFrame (frame : Frame) : (ofFrame frame).FiniteScores :=
  fun _ inside => by cases inside

theorem isSourceName_ofFrame (frame : Frame) : isSourceName (ofFrame frame).fileName = true :=
  (ofFrame frame).isSourceName_fileName

theorem toFrame_ofFrame (raw : frame.encoding = .raw) :
    (ofFrame frame).toFrame =
      if frame.payload.length = frame.size.toNat then .ok frame
      else .error (.sizeMismatch frame.index frame.size frame.payload.length) := by
  obtain ⟨index, sourceName, format, payload, encoding, capturedAt, size⟩ := frame
  cases raw
  by_cases whole : payload.length = size.toNat <;>
    simp [toFrame, ofFrame, Frame.base64, Base64.decode_encode, whole]

theorem toFrame_ofFrame_of_isPlain (plain : IsPlain frame) :
    (ofFrame frame).toFrame = .ok frame :=
  (toFrame_ofFrame plain.raw).trans (if_pos plain.whole)

/-- A frame that is read from the record of a frame is that frame. -/
theorem eq_of_toFrame_ofFrame {read : Frame} (raw : frame.encoding = .raw)
    (success : (ofFrame frame).toFrame = .ok read) : read = frame := by
  rw [toFrame_ofFrame raw] at success
  split at success
  · exact (Except.ok.inj success).symm
  · cases success

/-- A frame that is read from a record has its number. -/
theorem index_of_toFrame {record : Record} (success : record.toFrame = .ok frame) :
    frame.index = record.frameNumber := by
  unfold toFrame at success
  split at success
  · cases success
  · split at success <;> cases success
    rfl

end Record

/-- Frames that are read from records pass for numbered if these count. -/
theorem misnumbered?_of_read {records : List Record}
    (counts : CountsFrom 1 (records.map Record.frameNumber))
    (read : List.Forall₂ (fun record frame => Record.toFrame record = .ok frame) records frames) :
    misnumbered? frames = none := by
  have same : List.Forall₂ (· = ·) (records.map Record.frameNumber) (frames.map Frame.index) := by
    rw [List.forall₂_map_left_iff, List.forall₂_map_right_iff]
    exact read.imp fun record frame success => (Record.index_of_toFrame success).symm
  rw [List.forall₂_eq_eq_eq] at same
  rw [misnumbered?_eq_none_iff, ← same]
  exact counts

theorem numberedFrom_ofFrame (numbered : IsNumbered frames) :
    NumberedFrom 1 (frames.map .ofFrame) := by
  rw [NumberedFrom, List.map_map]
  exact numbered

/-- Frames are loaded from their files, whatever else of other kinds is in the folder. -/
theorem loadFrames_stored {directory : Directory} (distinct : directory.Distinct)
    (stored : (directory.filter fun entry => isSourceName (Text.lossy entry.1)).Perm
      (Listing.directory ((frames.map Record.ofFrame).map Record.stored)))
    (numbered : IsNumbered frames) (plain : ∀ frame ∈ frames, IsPlain frame) :
    loadFrames path (some directory) = .ok (frames.map Frame.reread) := by
  have finite : ∀ record ∈ frames.map Record.ofFrame, record.FiniteScores := by
    intro record inside
    obtain ⟨frame, _, rfl⟩ := List.mem_map.mp inside
    exact Record.finiteScores_ofFrame frame
  have loaded : loadContiguous path (some directory) isSourceName =
      .ok ((frames.map Record.ofFrame).map Record.reread) :=
    loadContiguous_stored distinct stored finite (numberedFrom_ofFrame numbered)
  have read : ((frames.map Record.ofFrame).map Record.reread).mapM Record.toFrame =
      .ok (frames.map Frame.reread) := by
    rw [List.map_map, List.mapM_map]
    refine mapM_eq_ok_map fun frame inside => ?_
    exact Record.toFrame_ofFrame_of_isPlain (plain frame inside).reread
  rw [loadFrames, loaded]
  simp only [read, Except.mapError]

/-- A time that frames may be taken at. -/
def noon : Time.Instant := ⟨12 * 60 * 60, 0, by decide⟩

end Archive

end FrameCourier
