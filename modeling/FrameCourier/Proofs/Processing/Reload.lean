import FrameCourier.Proofs.Archive.Frames
import FrameCourier.Proofs.Processing.Storing
import FrameCourier.Reassembly

/-!
# The output frames of a job, from its slots and from the archive

The images of the output video come from the slots of a job, or from the files that the
outcomes were archived in.  Both take for each frame the annotated image or, if they may, the
frame's own, and both stop at the first frame that gives none.
-/

namespace FrameCourier.Processing

open Archive Reassembly

variable {path : String} {now : Time.Instant} {frames : List Frame} {job : Job} {fallback : Bool}

/-! ## What a frame gives -/

/-- The image that a frame gives with its slot: the annotated one, or else, if `fallback`, its
own. -/
def imageWith (fallback : Bool) (frame : Frame) (slot : Slot) : Option Bytes :=
  slot.annotated?.or (if fallback then some frame.payload else none)

/-- The output frame of a frame and its slot, or the number of the frame if there is none. -/
def outputWith (fallback : Bool) (settled : Frame × Slot) : Except UInt32 OutputFrame :=
  match imageWith fallback settled.1 settled.2 with
  | some image => .ok ⟨settled.1.index, image⟩
  | none => .error settled.1.index

/-- The output frames of frames and their slots. -/
def outputOf (fallback : Bool) (frames : List Frame) (job : Job) :
    Except UInt32 (List OutputFrame) :=
  (frames.zip job.slots).mapM (outputWith fallback)

/-- A slot whose outcome can be archived: a report of an error has no image, and all scores are
finite. -/
structure IsSettled (slot : Slot) : Prop where
  attempted : slot.isPending = false
  noImage : ∀ report, slot = .completed report → report.isSuccess = false → report.annotated = none
  finite : ∀ report, slot = .completed report →
    ∀ prediction ∈ report.predictions, prediction.score.isFinite = true

/-! ## From the slots -/

theorem numbered_eq_map_zip (numbered : IsNumbered frames)
    (total : job.total = frames.length) :
    job.numbered = (frames.zip job.slots).map fun settled => (settled.1.index, settled.2) := by
  have slots : job.slots.length = frames.length := total
  refine List.ext_getElem (by simp [Job.numbered, slots]) fun position inside _ => ?_
  have placed : position < frames.length := by simpa [Job.numbered, slots] using inside
  have number : UInt32.ofNat (position + 1) = frames[position].index := by
    rw [← index_getElem numbered placed, UInt32.ofNat_toNat]
  simp only [Job.numbered, List.getElem_mapIdx, number, List.getElem_map, List.getElem_zip]

theorem map_index_zip (total : job.total = frames.length) :
    (frames.zip job.slots).map (fun attempt => attempt.1.index) = frames.map Frame.index := by
  have slots : frames.length ≤ job.slots.length := Nat.le_of_eq total.symm
  conv_rhs => rw [← List.map_fst_zip slots, List.map_map]
  rfl

theorem length_zip_slots (total : job.total = frames.length) :
    (frames.zip job.slots).length = frames.length := by
  have slots : frames.length ≤ job.slots.length := Nat.le_of_eq total.symm
  rw [List.length_zip, Nat.min_eq_left slots]

theorem reassemble_eq_outputOf (numbered : IsNumbered frames)
    (plain : ∀ frame ∈ frames, IsPlain frame) (total : job.total = frames.length) :
    reassemble frames job fallback =
      (outputOf fallback frames job).mapError .notAnnotated := by
  rw [reassemble, numbered.misnumbered?]
  simp only [numbered_eq_map_zip numbered total, List.mapM_map]
  refine mapM_eq_mapError fun settled inside => ?_
  obtain ⟨frame, slot⟩ := settled
  have member := (List.of_mem_zip inside).1
  have own : frame.image = .ok frame.payload := by
    rw [Frame.image, (plain frame member).raw]
  have found : frameOf? frames frame.index = some frame := by
    rw [frameOf?, if_neg (index_ne_zero_of_mem numbered member),
      getElem?_index_of_mem numbered member]
  cases image : slot.annotated? with
  | some annotated => simp [imageOf, outputWith, imageWith, image, Except.map, Except.mapError]
  | none =>
    cases fallback <;>
      simp [imageOf, outputWith, imageWith, image, found, own, Except.map, Except.mapError]

/-! ## From the archive -/

/-- The record of an attempted frame carries its number and an outcome. -/
theorem outcomeRecord?_of_isSettled (now : Time.Instant) (frame : Frame) {slot : Slot}
    (settled : IsSettled slot) :
    ∃ record, outcomeRecord? now frame slot = some record ∧ record.frameNumber = frame.index ∧
      record.detection.isSome = true ∧ record.FiniteScores := by
  cases slot with
  | pending => cases settled.attempted
  | failed message =>
    refine ⟨_, rfl, rfl, rfl, ?_⟩
    rintro outcome ⟨⟩ prediction inside
    cases inside
  | completed report =>
    refine ⟨_, rfl, ?_⟩
    unfold Record.withReport
    split
    · refine ⟨rfl, rfl, ?_⟩
      rintro outcome ⟨⟩
      exact settled.finite report rfl
    · refine ⟨rfl, rfl, ?_⟩
      rintro outcome ⟨⟩ prediction inside
      cases inside

/-- A record without an annotated image gives the image of its frame, if it may. -/
theorem toOutputFrame_of_ofFrame {frame : Frame} (plain : IsPlain frame)
    (detection : Option Outcome) (fallback : Bool) :
    Record.toOutputFrame { Record.ofFrame frame.reread with detection := detection } fallback =
      if fallback then .ok ⟨frame.index, frame.payload⟩ else .error (.notAnnotated frame.index) := by
  have own : Record.toFrame { Record.ofFrame frame.reread with detection := detection } =
      .ok frame.reread :=
    Record.toFrame_ofFrame_of_isPlain plain.reread
  rw [Record.toOutputFrame, own]
  rfl

/-- The archived outcome of a frame gives what the frame gives with its slot. -/
theorem toOutputFrame_of_isSettled {frame : Frame} (plain : IsPlain frame) {slot : Slot}
    (settled : IsSettled slot) {record : Record}
    (archived : outcomeRecord? now frame slot = some record) :
    record.reread.toOutputFrame fallback =
      (outputWith fallback (frame, slot)).mapError .notAnnotated := by
  cases slot with
  | pending => cases settled.attempted
  | failed message =>
    cases archived
    refine (toOutputFrame_of_ofFrame plain _ fallback).trans ?_
    cases fallback <;> rfl
  | completed report =>
    cases archived
    unfold Record.withReport
    split
    · cases image : report.annotated with
      | none =>
        refine (toOutputFrame_of_ofFrame plain _ fallback).trans ?_
        cases fallback <;> simp [outputWith, imageWith, Slot.annotated?, image, Except.mapError]
      | some annotated =>
        simp [Record.reread, Record.toOutputFrame, Base64.decode_encode, outputWith, imageWith,
          Slot.annotated?, image, Except.mapError, Record.ofFrame]
    · next failed =>
      have image := settled.noImage report rfl (Bool.eq_false_iff.mpr failed)
      refine (toOutputFrame_of_ofFrame plain _ fallback).trans ?_
      cases fallback <;> simp [outputWith, imageWith, Slot.annotated?, image, Except.mapError]

/-- The record that an outcome is archived in. -/
def settledRecord (now : Time.Instant) (settled : Frame × Slot) : Record :=
  (outcomeRecord? now settled.1 settled.2).getD (Record.ofFrame settled.1)

section

variable (numbered : IsNumbered frames) (plain : ∀ frame ∈ frames, IsPlain frame)
  (total : job.total = frames.length) (settled : ∀ slot ∈ job.slots, IsSettled slot)

include settled

theorem outcomeRecord?_of_mem {attempt : Frame × Slot} (inside : attempt ∈ frames.zip job.slots) :
    outcomeRecord? now attempt.1 attempt.2 = some (settledRecord now attempt) := by
  obtain ⟨record, archived, _⟩ :=
    outcomeRecord?_of_isSettled now attempt.1 (settled _ (List.of_mem_zip inside).2)
  rw [settledRecord, archived, Option.getD_some]

theorem outcomeRecords_eq_map :
    outcomeRecords now frames job = (frames.zip job.slots).map (settledRecord now) := by
  rw [← List.filterMap_eq_map]
  exact List.filterMap_congr fun attempt inside => outcomeRecord?_of_mem settled inside

theorem of_mem_outcomeRecords {record : Record} (inside : record ∈ outcomeRecords now frames job) :
    record.detection.isSome = true ∧ record.FiniteScores := by
  obtain ⟨attempt, member, archived⟩ := List.mem_filterMap.mp inside
  obtain ⟨same, archivedToo, _, outcome, finite⟩ :=
    outcomeRecord?_of_isSettled now attempt.1 (settled _ (List.of_mem_zip member).2)
  cases archived.symm.trans archivedToo
  exact ⟨outcome, finite⟩

include numbered total

theorem numberedFrom_outcomeRecords : NumberedFrom 1 (outcomeRecords now frames job) := by
  have numbers : (outcomeRecords now frames job).map Record.frameNumber =
      frames.map Frame.index := by
    rw [outcomeRecords_eq_map settled, List.map_map, ← map_index_zip total]
    refine List.map_congr_left fun attempt inside => ?_
    obtain ⟨record, archived, number, _⟩ :=
      outcomeRecord?_of_isSettled now attempt.1 (settled _ (List.of_mem_zip inside).2)
    rw [Function.comp_apply, settledRecord, archived, Option.getD_some, number]
  rw [NumberedFrom, numbers]
  exact numbered

include plain

/-- However the system lists the archived outcomes, their output frames are read back. -/
theorem loadOutputFrames_of_perm {listed : Directory}
    (stored : listed.Perm (Listing.directory ((outcomeRecords now frames job).map Record.stored))) :
    loadOutputFrames path (some listed) fallback =
      (outputOf fallback frames job).mapError fun number => .image (.notAnnotated number) := by
  have inOrder : NumberedFrom 1 (outcomeRecords now frames job) :=
    numberedFrom_outcomeRecords numbered total settled
  have distinct : listed.Distinct := inOrder.distinct_stored.directory.perm stored.symm
  have selected : ((outcomeRecords now frames job).map Record.stored).filter
      (fun entry => isProcessedName entry.1) = (outcomeRecords now frames job).map Record.stored := by
    refine List.filter_eq_self.mpr fun entry inside => ?_
    obtain ⟨record, member, rfl⟩ := List.mem_map.mp inside
    exact record.isProcessedName_fileName.trans (of_mem_outcomeRecords settled member).1
  have processed : (listed.filter fun entry => isProcessedName (Text.lossy entry.1)).Perm
      (Listing.directory ((outcomeRecords now frames job).map Record.stored)) := by
    refine (stored.filter _).trans (List.Perm.of_eq ?_)
    rw [Listing.filter_directory isProcessedName, selected]
  have loaded : loadContiguous path (some listed) isProcessedName =
      .ok ((outcomeRecords now frames job).map Record.reread) :=
    loadContiguous_stored distinct processed
      (fun record inside => (of_mem_outcomeRecords settled inside).2) inOrder
  have images : ((outcomeRecords now frames job).map Record.reread).mapM
      (fun record => record.toOutputFrame fallback) =
      (outputOf fallback frames job).mapError .notAnnotated := by
    rw [outcomeRecords_eq_map settled, List.map_map, List.mapM_map]
    refine mapM_eq_mapError fun attempt inside => ?_
    obtain ⟨member, slot⟩ := List.of_mem_zip inside
    exact toOutputFrame_of_isSettled (plain _ member) (settled _ slot)
      (outcomeRecord?_of_mem settled inside)
  rw [loadOutputFrames, loaded]
  simp only [images]
  cases outputOf fallback frames job <;> rfl

/-- The outcomes are all that the folder holds then, and what is read back are their output
frames. -/
theorem archiveAndReload_eq (before : Option Listing) :
    archiveAndReload path (before.map .folder) now frames job fallback =
      (some (.folder ((outcomeRecords now frames job).map Record.stored)),
        (outputOf fallback frames job).mapError fun number =>
          .notReadBack (.image (.notAnnotated number))) := by
  have inOrder : NumberedFrom 1 (outcomeRecords now frames job) :=
    numberedFrom_outcomeRecords numbered total settled
  have stored : store path [] (outcomeRecords now frames job) =
      ((outcomeRecords now frames job).map Record.stored, .ok ()) :=
    store_of_fresh inOrder.nodup_fileName fun _ _ inside => by cases inside
  have loaded : loadOutputFrames path
      (some (Listing.directory ((outcomeRecords now frames job).map Record.stored))) fallback = _ :=
    loadOutputFrames_of_perm numbered plain total settled (List.Perm.refl _)
  unfold archiveAndReload
  split
  · next content found => cases before <;> cases found
  · rw [stored]
    simp only [loaded]
    cases images : outputOf fallback frames job with
    | error number => rfl
    | ok output =>
      have length : output.length = job.total := by
        rw [← (forall₂_of_mapM_eq_ok images).length_eq, length_zip_slots total, total]
      simp [Except.mapError, length]

end

/-! ## One way and the other -/

/-- The slot of the number has no annotated image, and every slot before it has one. -/
def IsFirstUnannotated (job : Job) (number : UInt32) : Prop :=
  (∃ slot, (number, slot) ∈ job.numbered ∧ slot.annotated? = none) ∧
    ∀ earlier ∈ job.numbered, earlier.1 < number → earlier.2.annotated?.isSome = true

theorem of_outputWith_eq_error {attempt : Frame × Slot} {number : UInt32}
    (failure : outputWith fallback attempt = .error number) :
    fallback = false ∧ attempt.2.annotated? = none ∧ attempt.1.index = number := by
  unfold outputWith at failure
  split at failure
  · cases failure
  · next lacking =>
    obtain ⟨unannotated, own⟩ := Option.or_eq_none_iff.mp lacking
    refine ⟨?_, unannotated, Except.error.inj failure⟩
    cases fallback
    · rfl
    · cases own

theorem isSome_of_outputWith_eq_ok {attempt : Frame × Slot} {output : OutputFrame}
    (success : outputWith false attempt = .ok output) : attempt.2.annotated?.isSome = true := by
  unfold outputWith at success
  split at success
  · next image found =>
    rw [imageWith, if_neg Bool.false_ne_true, Option.or_none] at found
    exact Option.isSome_of_eq_some found
  · cases success

/-- Output frames end at the first slot without an annotated image, and only if frames may not
give their own. -/
theorem isFirstUnannotated_of_outputOf (numbered : IsNumbered frames)
    (total : job.total = frames.length) {number : UInt32}
    (failure : outputOf fallback frames job = .error number) :
    fallback = false ∧ IsFirstUnannotated job number := by
  obtain ⟨before, ⟨frame, slot⟩, later, split, fails, earlier⟩ := exists_of_mapM_eq_error failure
  obtain ⟨rfl, unannotated, rfl⟩ := of_outputWith_eq_error fails
  have increasing : (job.numbered.map Prod.fst).Pairwise (· < ·) := by
    rw [numbered_eq_map_zip numbered total, List.map_map]
    exact (map_index_zip total).symm ▸ IsCount.pairwise_lt numbered
  have slots := numbered_eq_map_zip numbered total
  rw [split, List.map_append, List.map_cons] at slots
  refine ⟨rfl, ⟨slot, by simp [slots], unannotated⟩, fun other inside below => ?_⟩
  rw [slots, List.mem_append, List.mem_cons] at inside
  rcases inside with inside | rfl | inside
  · obtain ⟨attempt, member, rfl⟩ := List.mem_map.mp inside
    obtain ⟨output, gives⟩ := earlier attempt member
    exact isSome_of_outputWith_eq_ok gives
  · exact absurd below (UInt32.lt_irrefl _)
  · rw [slots, List.map_append, List.map_cons, List.pairwise_append, List.pairwise_cons]
      at increasing
    have above := increasing.2.1.1 other.1 (List.mem_map_of_mem inside)
    exact absurd below (UInt32.lt_asymm above)

/-- What is read back from archived outcomes is what the slots of the job give: the same output
frames, or an error for the same frame, which is the first one without an image.  Whatever was
at the path before does not count, nor does the order in which the system lists the folder. -/
theorem archiveAndReload_eq_reassemble (numbered : IsNumbered frames)
    (plain : ∀ frame ∈ frames, IsPlain frame) (total : job.total = frames.length)
    (settled : ∀ slot ∈ job.slots, IsSettled slot) (path : String) (before : Option Listing)
    (now : Time.Instant) (fallback : Bool) :
    let reloaded := archiveAndReload path (before.map .folder) now frames job fallback
    (∀ output, reloaded.2 = .ok output ↔ reassemble frames job fallback = .ok output) ∧
      (∀ error, reloaded.2 = .error error →
        ∃ number, fallback = false ∧ IsFirstUnannotated job number ∧
          error = .notReadBack (.image (.notAnnotated number)) ∧
          reassemble frames job fallback = .error (.notAnnotated number)) ∧
      ∃ listing : Listing, reloaded.1 = some (.folder listing) ∧
        ∀ listed : Directory, listed.Perm listing.directory →
          loadOutputFrames path (some listed) fallback =
            loadOutputFrames path (some listing.directory) fallback := by
  intro reloaded
  have archive : reloaded = _ := archiveAndReload_eq numbered plain total settled before
  have slots : reassemble frames job fallback = _ := reassemble_eq_outputOf numbered plain total
  refine ⟨fun output => ?_, fun error failure => ?_, ?_⟩
  · rw [archive, slots, mapError_eq_ok, mapError_eq_ok]
  · rw [archive] at failure
    cases images : outputOf fallback frames job with
    | ok output =>
      rw [images] at failure
      cases failure
    | error number =>
      rw [images] at failure slots
      obtain ⟨notFallback, first⟩ := isFirstUnannotated_of_outputOf numbered total images
      exact ⟨number, notFallback, first, (Except.error.inj failure).symm, slots⟩
  · refine ⟨_, congrArg Prod.fst archive, fun listed perm => ?_⟩
    rw [loadOutputFrames_of_perm numbered plain total settled perm,
      loadOutputFrames_of_perm numbered plain total settled (List.Perm.refl _)]

/-- Two frames of which only the first one came back annotated. -/
def twoFrames : List Frame := Frame.ofImages [[1], [2]] "jpg" noon

/-- The job on two frames: a report with one prediction, and a lost connection. -/
def halfAnnotated : Job :=
  ⟨[.completed ⟨.success, 1, [⟨"cat", .ofInt _ 1, ⟨1, 2, 3, 4⟩⟩], some [9], noon, none⟩,
    .failed "refused"]⟩

theorem isSettled_halfAnnotated : ∀ slot ∈ halfAnnotated.slots, IsSettled slot := by
  intro slot inside
  simp only [halfAnnotated, List.mem_cons, List.not_mem_nil, or_false] at inside
  rcases inside with rfl | rfl
  · refine ⟨rfl, ?_, ?_⟩
    · rintro report ⟨⟩ failed
      cases failed
    · rintro report ⟨⟩ prediction inside
      obtain rfl := List.mem_singleton.mp inside
      decide +kernel
  · exact ⟨rfl, fun report same _ => Slot.noConfusion same, fun report same => Slot.noConfusion same⟩

/-- Without a fallback both ways end at frame 2, whatever an earlier run left for frame 9. -/
theorem archiveAndReload_halfAnnotated :
    (archiveAndReload "work/processed" (some (.folder [("frame_00009_error.json", .file [])]))
      noon twoFrames halfAnnotated false).2 =
      .error (.notReadBack (.image (.notAnnotated 2))) := by
  have plain : ∀ frame ∈ twoFrames, IsPlain frame := by
    intro frame inside
    simp only [twoFrames, Frame.ofImages, List.mapIdx_cons, List.mapIdx_nil, List.mem_cons,
      List.not_mem_nil, or_false] at inside
    rcases inside with rfl | rfl <;> exact ⟨rfl, rfl⟩
  have ends : reassemble twoFrames halfAnnotated false = .error (.notAnnotated 2) := rfl
  obtain ⟨outputs, errors, _⟩ := archiveAndReload_eq_reassemble
    (isNumbered_iff.mpr ⟨by decide, by decide⟩ : IsNumbered twoFrames) plain rfl
    isSettled_halfAnnotated "work/processed" (some [("frame_00009_error.json", .file [])])
    noon false
  cases reloaded : (archiveAndReload "work/processed"
      (some (.folder [("frame_00009_error.json", .file [])])) noon twoFrames
      halfAnnotated false).2 with
  | ok output =>
    have same := (outputs output).mp reloaded
    rw [ends] at same
    cases same
  | error error =>
    obtain ⟨number, _, _, rfl, same⟩ := errors error reloaded
    rw [ends] at same
    rw [← Error.notAnnotated.inj (Except.error.inj same)]

end FrameCourier.Processing
