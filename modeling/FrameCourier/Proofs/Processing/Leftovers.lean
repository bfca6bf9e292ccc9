import FrameCourier.Proofs.Archive.Frames
import FrameCourier.Proofs.Processing.Run
import FrameCourier.Proofs.Processing.Storing

/-!
# Frames left by an earlier run

Extracted frames are stored in a folder that outlives the run, over the files of their names
only, and are read back by a scan of that folder.  What is loaded are the extracted frames and
behind them whatever other frames without an outcome were there: the run goes on with the
extracted frames alone exactly if there were none.

Places are counted in 32 bits, so all this is about folders that have fewer such frames than there
are numbers.
-/

namespace FrameCourier.Processing

open Archive

variable {path : String} {before after : Listing} {frames loaded : List Frame}

/-! ## Entries that a folder keeps -/

/-- A name is one of those that frames are stored under. -/
def isWritten (frames : List Frame) (name : String) : Bool :=
  (frames.map fun frame => (Record.ofFrame frame).fileName).contains name

/-- A name is that of a frame without an outcome, but of none of the given ones. -/
def isLeftName (frames : List Frame) (name : String) : Bool :=
  isSourceName name && !isWritten frames name

/-- The frames without an outcome that stay in a folder when frames are stored there. -/
def leftovers (before : Listing) (frames : List Frame) : List Entry :=
  (entriesOf before.directory).filter fun entry => isLeftName frames entry.name

/-- The entry is read as the frame. -/
def Holds (path : String) (entry : Entry) (frame : Frame) : Prop :=
  ∃ record, readNode (placeOf path entry.listed) entry.node = .ok record ∧
    record.toFrame = .ok frame

theorem isWritten_fileName {frame : Frame} (inside : frame ∈ frames) :
    isWritten frames (Record.ofFrame frame).fileName = true := by
  rw [isWritten, List.contains_iff_mem]
  exact List.mem_map_of_mem inside

/-- What is not written over is the same before and after. -/
theorem filter_entriesOf_putAll (distinct : before.Distinct) (frames : List Frame) :
    (entriesOf (putAll before (frames.map .ofFrame)).directory).filter
        (fun entry => isLeftName frames entry.name) = leftovers before frames := by
  have written : ∀ record ∈ frames.map Record.ofFrame,
      isLeftName frames record.fileName = false := by
    intro record inside
    obtain ⟨frame, member, rfl⟩ := List.mem_map.mp inside
    rw [isLeftName, isWritten_fileName member, Bool.not_true, Bool.and_false]
  have stays : (putAll before (frames.map Record.ofFrame)).filter
      (fun entry => isLeftName frames entry.1) = _ := filter_putAll written
  rw [leftovers, filter_entriesOf (distinct_putAll distinct _).directory,
    Listing.filter_directory (isLeftName frames), stays, filter_entriesOf distinct.directory,
    Listing.filter_directory (isLeftName frames)]

/-! ## Where the extracted frames stand -/

section

variable {entries : List Entry} {records : List Record} (distinct : before.Distinct)
  (scanned : (entriesOf (putAll before (frames.map .ofFrame)).directory).filter
    (fun entry => isSourceName entry.name) = entries)
  (contiguous : readContiguous path 1 entries = .ok records)

include scanned contiguous

/-- A stored frame is read at its place: its number counts the entries up to it. -/
theorem exists_place {frame : Frame} (inside : frame ∈ frames) :
    ∃ last ∈ frames, last.index = frame.index ∧ ∃ position,
      entries[position]? = some (Record.ofFrame last).entry ∧
      records[position]? = some (Record.ofFrame last).reread ∧
      frame.index = UInt32.ofNat (position + 1) := by
  have written : (Record.ofFrame frame).fileName ∈ (frames.map Record.ofFrame).map Record.fileName :=
    List.mem_map_of_mem (List.mem_map_of_mem inside)
  obtain ⟨record, member, name, found⟩ := @exists_lookup_putAll before _ _ written
  obtain ⟨last, insideLast, rfl⟩ := List.mem_map.mp member
  have index : last.index = frame.index := Record.frameNumber_eq_of_fileName_eq name
  have listed : (Record.ofFrame last).entry ∈ entries := by
    rw [← scanned, List.mem_filter, mem_entriesOf]
    refine ⟨⟨?_, (Bytes.lossy_ofText _).symm, (Record.ofFrame last).frameNumber?_fileName⟩,
      Record.isSourceName_ofFrame last⟩
    rw [Record.entry, name]
    exact List.mem_map.mpr ⟨_, Listing.mem_of_lookup_eq_some found, rfl⟩
  obtain ⟨position, placed⟩ := List.getElem?_of_mem listed
  obtain ⟨counts, readAll⟩ := readContiguous_eq_ok contiguous
  obtain ⟨record, placedRecord, read⟩ := forall₂_getElem? readAll placed
  rw [Record.readNode_entry (Record.finiteScores_ofFrame last)] at read
  cases read
  refine ⟨last, insideLast, index, position, placed, placedRecord, ?_⟩
  have number := counts.eq_of_getElem? (by rw [List.getElem?_map, placedRecord, Option.map_some])
  rw [← index, Nat.add_comm]
  exact number

variable (few : entries.length < 2 ^ 32)

include few

/-- The number of a stored frame is one more than the number of entries before it. -/
theorem exists_position {frame : Frame} (inside : frame ∈ frames) :
    ∃ last ∈ frames, last.index = frame.index ∧ ∃ position,
      entries[position]? = some (Record.ofFrame last).entry ∧
      records[position]? = some (Record.ofFrame last).reread ∧
      frame.index.toNat = position + 1 := by
  obtain ⟨last, insideLast, same, position, placed, placedRecord, number⟩ :=
    exists_place scanned contiguous inside
  obtain ⟨bound, -⟩ := List.getElem?_eq_some_iff.mp placed
  refine ⟨last, insideLast, same, position, placed, placedRecord, ?_⟩
  rw [number, UInt32.toNat_ofNat_of_lt' (by rw [UInt32.size]; omega)]

/-- No stored frame has the number 0, which no place has. -/
theorem index_ne_zero {frame : Frame} (inside : frame ∈ frames) : frame.index ≠ 0 := by
  obtain ⟨_, _, _, _, _, _, number⟩ := exists_position scanned contiguous few inside
  rintro zero
  rw [zero] at number
  cases number

/-- The stored frames come first, each at its place. -/
theorem take_scanned (numbered : IsNumbered frames) :
    entries.take frames.length = frames.map (fun frame => (Record.ofFrame frame).entry) ∧
      records.take frames.length = frames.map fun frame => (Record.ofFrame frame).reread := by
  have places : ∀ position (inside : position < frames.length),
      entries[position]? = some (Record.ofFrame frames[position]).entry ∧
        records[position]? = some (Record.ofFrame frames[position]).reread := by
    intro position inside
    obtain ⟨last, insideLast, same, place, placed, placedRecord, number⟩ :=
      exists_position scanned contiguous few (List.getElem_mem inside)
    obtain rfl := eq_of_index_eq numbered insideLast (List.getElem_mem inside) same
    rw [index_getElem numbered inside] at number
    obtain rfl := Nat.succ.inj number
    exact ⟨placed, placedRecord⟩
  constructor <;> refine List.ext_getElem? fun position => ?_ <;>
    rw [List.getElem?_take, List.getElem?_map] <;> split
  · next inside => rw [(places position inside).1, List.getElem?_eq_getElem inside]; rfl
  · next outside => rw [List.getElem?_eq_none (Nat.le_of_not_lt outside)]; rfl
  · next inside => rw [(places position inside).2, List.getElem?_eq_getElem inside]; rfl
  · next outside => rw [List.getElem?_eq_none (Nat.le_of_not_lt outside)]; rfl

include distinct

/-- What comes behind the stored frames is what was there before. -/
theorem drop_scanned (numbered : IsNumbered frames) :
    entries.drop frames.length = leftovers before frames := by
  have front := (take_scanned scanned contiguous few numbered).1
  have names : (entries.map Entry.listed).Nodup := by
    rw [← scanned]
    exact (nodup_listed_entriesOf (distinct_putAll distinct _).directory).sublist
      (List.filter_sublist.map _)
  rw [← List.take_append_drop frames.length entries, List.map_append, List.nodup_append] at names
  have written : (entries.take frames.length).filter (fun entry => isLeftName frames entry.name) =
      [] := by
    rw [front, List.filter_eq_nil_iff]
    intro entry inside
    obtain ⟨frame, member, rfl⟩ := List.mem_map.mp inside
    simp [isLeftName, Record.entry, isWritten_fileName member]
  have left : (entries.drop frames.length).filter (fun entry => isLeftName frames entry.name) =
      entries.drop frames.length := by
    refine List.filter_eq_self.mpr fun entry inside => ?_
    have listed : entry ∈ entries := List.mem_of_mem_drop inside
    rw [← scanned, List.mem_filter] at listed
    rw [isLeftName, listed.2, Bool.true_and, Bool.not_eq_true', Bool.eq_false_iff, isWritten,
      ne_eq, List.contains_iff_mem]
    intro written
    obtain ⟨frame, member, name⟩ := List.mem_map.mp written
    refine names.2.2 entry.listed ?_ entry.listed (List.mem_map_of_mem inside) rfl
    rw [front, List.map_map, listed_of_mem_entriesOf listed.1, ← name]
    exact List.mem_map.mpr ⟨frame, member, rfl⟩
  have among : ∀ entry ∈ entriesOf (putAll before (frames.map .ofFrame)).directory,
      (isLeftName frames entry.name && isSourceName entry.name) = isLeftName frames entry.name := by
    intro entry _
    cases source : isSourceName entry.name <;> simp [isLeftName, source]
  calc entries.drop frames.length
    _ = entries.filter fun entry => isLeftName frames entry.name := by
      rw [← left, ← List.nil_append (List.filter _ _), ← written, ← List.filter_append,
        List.take_append_drop]
    _ = (entriesOf (putAll before (frames.map .ofFrame)).directory).filter
        fun entry => isLeftName frames entry.name := by
      rw [← scanned, List.filter_filter]
      exact List.filter_congr among
    _ = leftovers before frames := filter_entriesOf_putAll distinct frames

/-- What is read are the stored frames, and then what was there before. -/
theorem exists_stale (numbered : IsNumbered frames)
    (raw : ∀ frame ∈ frames, frame.encoding = .raw)
    (read : List.Forall₂ (fun record frame => Record.toFrame record = .ok frame) records loaded) :
    ∃ stale, loaded = frames.map Frame.reread ++ stale ∧
      List.Forall₂ (Holds path) (leftovers before frames) stale := by
  refine ⟨loaded.drop frames.length, ?_, ?_⟩
  · have front := List.forall₂_take frames.length read
    rw [(take_scanned scanned contiguous few numbered).2, List.forall₂_map_left_iff] at front
    have same : List.Forall₂ (· = ·) (frames.map Frame.reread) (loaded.take frames.length) := by
      rw [List.forall₂_map_left_iff]
      refine ((List.forall₂_and_left _ _).mpr ⟨raw, front⟩).imp fun frame other both => ?_
      exact (Record.eq_of_toFrame_ofFrame (show frame.reread.encoding = .raw from both.1)
        both.2).symm
    rw [List.forall₂_eq_eq_eq] at same
    conv_lhs => rw [← List.take_append_drop frames.length loaded, ← same]
  · rw [← drop_scanned distinct scanned contiguous few numbered]
    exact List.forall₂_drop frames.length (forall₂_comp (readContiguous_eq_ok contiguous).2 read)

end

/-! ## What is loaded -/

/-- The folder that a node is; nothing else has entries. -/
def standing : Option Node → Listing
  | some (.folder entries) => entries
  | _ => []

theorem eq_standing_of_openArchive {node : Option Node} {listing : Listing}
    (success : openArchive path node = .ok listing) : listing = standing node := by
  unfold openArchive at success
  split at success <;> cases success <;> rfl

theorem encoding_of_mem_ofImages {images : List Bytes} {format : String} {now : Time.Instant}
    {frame : Frame} (inside : frame ∈ Frame.ofImages images format now) :
    frame.encoding = .raw := by
  obtain ⟨position, _, rfl⟩ := List.mem_mapIdx.mp inside
  rfl

/-- The images of a video are numbered from 1, unless there are so many that a number is 0. -/
theorem isNumbered_ofImages {images : List Bytes} {format : String} {now : Time.Instant}
    (nonzero : ∀ frame ∈ Frame.ofImages images format now, frame.index ≠ 0) :
    IsNumbered (Frame.ofImages images format now) := by
  refine isNumbered_iff.mpr ⟨misnumbered?_ofImages images format now, ?_⟩
  by_contra many
  have inside : 2 ^ 32 - 1 < (Frame.ofImages images format now).length := by omega
  refine nonzero _ (List.getElem_mem inside) ?_
  simp only [Frame.ofImages, Frame.ofImage, List.getElem_mapIdx]
  rfl

/-- Whatever was in the folder, what is loaded passes for numbered; it is the extracted frames, with
the times that are read for theirs, and behind them the frames under other names that were there. -/
theorem eq_append_of_archiveFrames {node : Option Node} {images : List Bytes} {now : Time.Instant}
    (distinct : (standing node).Distinct)
    (success : (archiveFrames path node (Frame.ofImages images "jpg" now)).2 = .ok loaded) :
    misnumbered? loaded = none ∧
      (loaded.length < 2 ^ 32 →
        ∃ stale, loaded = (Frame.ofImages images "jpg" now).map Frame.reread ++ stale ∧
          List.Forall₂ (Holds path) (leftovers (standing node) (Frame.ofImages images "jpg" now))
            stale) := by
  unfold archiveFrames at success
  split at success
  · cases success
  · next listing opened =>
    obtain rfl := eq_standing_of_openArchive opened
    split at success
    · cases success
    · next after stored =>
      obtain rfl := store_eq_ok stored
      have loads := mapError_eq_ok.mp success
      simp only [loadFrames, loadContiguous, Archive.entries] at loads
      split at loads
      · cases loads
      · next records contiguous =>
        have read := forall₂_of_mapM_eq_ok (mapError_eq_ok.mp loads)
        obtain ⟨counts, readAll⟩ := readContiguous_eq_ok contiguous
        refine ⟨misnumbered?_of_read counts read, fun few => ?_⟩
        rw [← read.length_eq, ← readAll.length_eq] at few
        have numbered : IsNumbered (Frame.ofImages images "jpg" now) :=
          isNumbered_ofImages fun frame inside => index_ne_zero rfl contiguous few inside
        exact exists_stale distinct rfl contiguous few numbered
          (fun frame inside => encoding_of_mem_ofImages inside) read

/-- Frames that are stored beside frames of the numbers behind theirs are loaded with them. -/
theorem archiveFrames_beside {stale : List Frame} (numbered : IsNumbered (frames ++ stale))
    (plain : ∀ frame ∈ frames ++ stale, IsPlain frame) (path : String) :
    (archiveFrames path (some (.folder ((stale.map Record.ofFrame).map Record.stored))) frames).2 =
      .ok ((frames ++ stale).map Frame.reread) := by
  have inOrder := numberedFrom_ofFrame numbered
  have names := inOrder.nodup_fileName
  rw [List.map_append, List.map_append, List.nodup_append] at names
  have fresh : ∀ record ∈ frames.map Record.ofFrame,
      record.fileName ∉ Listing.names ((stale.map Record.ofFrame).map Record.stored) := by
    intro record inside taken
    rw [Listing.names, List.map_map] at taken
    exact names.2.2 _ (List.mem_map_of_mem inside) _ taken rfl
  let after := (stale.map Record.ofFrame).map Record.stored ++
    (frames.map Record.ofFrame).map Record.stored
  have stored : store path _ (frames.map Record.ofFrame) = (after, .ok ()) :=
    store_of_fresh names.1 fresh
  have perm : after.Perm (((frames ++ stale).map Record.ofFrame).map Record.stored) := by
    rw [List.map_append, List.map_append]
    exact List.perm_append_comm
  have selected : after.filter (fun entry => isSourceName entry.1) = after := by
    refine List.filter_eq_self.mpr fun entry inside => ?_
    obtain ⟨record, member, rfl⟩ := List.mem_map.mp (perm.mem_iff.mp inside)
    obtain ⟨frame, _, rfl⟩ := List.mem_map.mp member
    exact Record.isSourceName_ofFrame frame
  have distinct : Listing.Distinct after := inOrder.distinct_stored.perm perm.symm
  have loads : loadFrames path (some (Listing.directory after)) =
      .ok ((frames ++ stale).map Frame.reread) := by
    refine loadFrames_stored distinct.directory ?_ numbered plain
    rw [Listing.filter_directory isSourceName, selected]
    exact perm.map _
  simp only [archiveFrames, openArchive, stored, loads, Except.mapError]

/-- A run goes on with the extracted frames and with all frames that an earlier run left under
other names: these go to the service, count in the progress and come into the video like the
extracted ones.  It goes on with the extracted frames alone exactly if none were left.  Times are
those that are read for the ones that were stored. -/
theorem run_of_archived {order : Order} {around : Surroundings} {site : Site}
    {images : List Bytes}
    (extracted : (Video.extractImages around.program around.programFolder order.inputVideo
      around.inputPresent).result = .ok images)
    (distinct : (standing (site.folder.lookup framesName)).Distinct)
    (archived : (archiveFrames (inside order.work framesName) (site.folder.lookup framesName)
      (Frame.ofImages images "jpg" around.now)).2 = .ok loaded) :
    let own := Frame.ofImages images "jpg" around.now
    let left := leftovers (standing (site.folder.lookup framesName)) own
    misnumbered? loaded = none ∧
      (∀ progress, (run order around site).2 = .ok progress →
        progress.total = loaded.length ∧
          ∃ output : List OutputFrame, output.length = loaded.length ∧
            (output = [] ∨ ∃ video,
              (Video.encodeFrames around.program around.programFolder output order.options).result =
                .ok video ∧ (run order around site).1.video = some video)) ∧
      (loaded.length < 2 ^ 32 →
        IsNumbered loaded ∧
        (∃ stale, loaded = own.map Frame.reread ++ stale ∧
          List.Forall₂ (Holds (inside order.work framesName)) left stale) ∧
        loaded.length = images.length + left.length ∧
        (loaded = own.map Frame.reread ↔ left = [])) := by
  intro own left
  obtain ⟨passes, split⟩ := eq_append_of_archiveFrames distinct archived
  refine ⟨passes, fun progress success => ?_, fun few => ?_⟩
  · obtain ⟨imagesToo, loadedToo, job, output, found, loads, total, rfl, length, video⟩ :=
      exists_of_run_eq_ok success
    rw [extracted] at found
    cases found
    rw [archived] at loads
    cases loads
    exact ⟨total, output, length.trans total, video⟩
  · obtain ⟨stale, whole, holds⟩ := split few
    refine ⟨isNumbered_iff.mpr ⟨passes, few⟩, ⟨stale, whole, holds⟩, ?_, ?_⟩
    · have ownLength : own.length = images.length := by simp [own, Frame.ofImages]
      rw [whole, List.length_append, List.length_map, ← holds.length_eq, ← ownLength]
    · rw [whole, List.append_right_eq_self, ← List.length_eq_zero_iff, ← List.length_eq_zero_iff,
        ← holds.length_eq]

/-- The only frame of a video. -/
def onlyFrame : List Frame := Frame.ofImages [[1]] "jpg" noon

/-- The second frame of an earlier video. -/
def secondFrame : Frame := .ofImage 2 [2] "jpg" noon

theorem isPlain_onlyFrame_append : ∀ frame ∈ onlyFrame ++ [secondFrame], IsPlain frame := by
  intro frame inside
  have frames : onlyFrame ++ [secondFrame] = [.ofImage 1 [1] "jpg" noon, secondFrame] :=
    rfl
  rw [frames, List.mem_cons, List.mem_singleton] at inside
  rcases inside with rfl | rfl <;> exact ⟨rfl, rfl⟩

theorem isNumbered_onlyFrame_append : IsNumbered (onlyFrame ++ [secondFrame]) :=
  isNumbered_iff.mpr ⟨by decide, by decide⟩

/-- With the second frame of an earlier video in the folder, a video of one image has two
frames. -/
theorem archiveFrames_after_longer_video :
    (archiveFrames "work/frames" (some (.folder [(Record.ofFrame secondFrame).stored]))
        onlyFrame).2 = .ok (onlyFrame ++ [secondFrame]) ∧
      onlyFrame ++ [secondFrame] ≠ onlyFrame :=
  ⟨archiveFrames_beside isNumbered_onlyFrame_append isPlain_onlyFrame_append "work/frames",
    by decide⟩

/-- What a run on a video of one image finds. -/
def oneImage : Surroundings :=
  { unreachable := none
    service := fun _ => (0, .ok ⟨.success, 0, [], none, noon, none⟩)
    program := ⟨"ffmpeg", fun _ _ => .ok ([("frame_00001.jpg", .file [1])], ⟨some 0, []⟩)⟩
    programFolder := "codec"
    inputPresent := true
    outputFault := none
    now := noon }

def oneImageOrder : Order := ⟨"in.mp4", "out.mp4", "work", .default, true, .default⟩

/-- A folder in which a longer video was processed before. -/
def usedSite : Site :=
  ⟨[(framesName, .folder [(Record.ofFrame secondFrame).stored])], [], [], none⟩

theorem extractImages_oneImage :
    (Video.extractImages oneImage.program oneImage.programFolder oneImageOrder.inputVideo
      oneImage.inputPresent).result = .ok [[1]] := by
  have isImage : Video.isImageName "frame_00001.jpg" = true := by decide
  have first : Video.checkSequence ["frame_00001.jpg"] = .ok () := by decide +kernel
  have found : Video.collect [("frame_00001.jpg", .file [1])] = .ok [[1]] := by
    simp [Video.collect, Video.imagesOf, isImage, first, Node.content, Except.mapError, bind,
      Except.bind, pure, Except.pure]
  simp [Video.extractImages, oneImage, Video.Program.attempt, found]

theorem lookup_usedSite : usedSite.folder.lookup framesName =
    some (.folder [(Record.ofFrame secondFrame).stored]) :=
  List.lookup_cons_self

/-- A run on one image after a longer video goes on with the second frame of that video too. -/
theorem run_of_archived_usedSite :
    IsNumbered (onlyFrame ++ [secondFrame]) ∧
      leftovers (standing (usedSite.folder.lookup framesName)) onlyFrame ≠ [] := by
  have distinct : (standing (usedSite.folder.lookup framesName)).Distinct := by
    rw [lookup_usedSite]
    exact List.nodup_singleton _
  have archived : (archiveFrames (inside oneImageOrder.work framesName)
      (usedSite.folder.lookup framesName) onlyFrame).2 = .ok (onlyFrame ++ [secondFrame]) := by
    rw [lookup_usedSite]
    exact archiveFrames_beside isNumbered_onlyFrame_append isPlain_onlyFrame_append _
  obtain ⟨-, -, few⟩ := run_of_archived extractImages_oneImage distinct archived
  obtain ⟨numbered, -, -, alone⟩ := few (by decide)
  exact ⟨numbered, fun none => absurd (alone.mpr none) (by decide)⟩

end FrameCourier.Processing
