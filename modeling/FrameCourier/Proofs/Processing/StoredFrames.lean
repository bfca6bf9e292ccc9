import FrameCourier.Proofs.Archive.Frames
import FrameCourier.Proofs.Processing.Storing

/-!
# Frames that are stored in any order

Frames that are numbered from 1 may be stored in any order, raw or in base64.  In a folder without
other frames of their kind they are loaded in the order of their numbers, each with its image as
payload and with the time that is read for its own, whatever else is in the folder and however the
system lists it.
-/

namespace FrameCourier.Processing

open Archive

variable {path : String} {before : Listing} {frame : Frame} {frames order : List Frame}

/-! ## One frame -/

/-- The frame has an image, of the size that it says. -/
def HasImage (frame : Frame) : Prop :=
  ∃ image, frame.image = .ok image ∧ image.length = frame.size.toNat

/-- The second frame is the first one with its image as payload and the time that is read. -/
structure IsLoadedFor (frame loaded : Frame) : Prop where
  index : loaded.index = frame.index
  sourceName : loaded.sourceName = frame.sourceName
  format : loaded.format = frame.format
  capturedAt : loaded.capturedAt = frame.capturedAt.reread
  size : loaded.size = frame.size
  raw : loaded.encoding = .raw
  image : frame.image = .ok loaded.payload

theorem decode_base64 {image : Bytes} (decoded : frame.image = .ok image) :
    Base64.decode frame.base64 = .ok image := by
  unfold Frame.image at decoded
  unfold Frame.base64
  split at decoded
  · cases decoded
    exact Base64.decode_encode _
  · exact Base64.decode_lossy decoded

/-- A frame with an image is loaded from its record. -/
theorem exists_toFrame_ofFrame (image : HasImage frame) :
    ∃ loaded, (Record.ofFrame frame).reread.toFrame = .ok loaded ∧ IsLoadedFor frame loaded := by
  obtain ⟨image, decoded, whole⟩ := image
  refine ⟨{ frame.reread with payload := image, encoding := .raw }, ?_, rfl, rfl, rfl, rfl, rfl,
    rfl, decoded⟩
  simp only [Record.toFrame, Record.reread, Record.ofFrame, decode_base64 decoded, whole, ne_eq,
    not_true_eq_false, if_false]
  rfl

/-! ## The folder afterwards -/

/-- All that a folder has of frames without an outcome are files under the names of these. -/
def HoldsOnly (before : Listing) (frames : List Frame) : Prop :=
  ∀ entry ∈ before, isSourceName entry.1 = true →
    (∃ content, entry.2 = .file content) ∧
      ∃ frame ∈ frames, entry.1 = (Record.ofFrame frame).fileName

theorem HoldsOnly.not_folder (alone : HoldsOnly before frames) (frame : Frame) (inner : Listing) :
    before.lookup (Record.ofFrame frame).fileName ≠ some (.folder inner) := by
  intro found
  obtain ⟨⟨content, file⟩, -⟩ := alone _ (Listing.mem_of_lookup_eq_some found)
    (Record.isSourceName_ofFrame frame)
  cases file

/-- What a folder has of frames without an outcome are the records of the frames that were stored
there. -/
theorem filter_putAll_perm (distinct : before.Distinct) (alone : HoldsOnly before frames)
    (numbered : NumberedFrom 1 (frames.map Record.ofFrame)) (perm : order.Perm frames) :
    ((putAll before (order.map .ofFrame)).filter fun entry => isSourceName entry.1).Perm
      ((frames.map Record.ofFrame).map Record.stored) := by
  have after := distinct_putAll distinct (order.map .ofFrame)
  have entries : (putAll before (order.map .ofFrame)).Nodup := List.Nodup.of_map Prod.fst after
  have records : ((frames.map Record.ofFrame).map Record.stored).Nodup :=
    List.Nodup.of_map Prod.fst numbered.distinct_stored
  rw [List.perm_ext_iff_of_nodup (entries.filter _) records]
  rintro ⟨name, node⟩
  rw [List.mem_filter]
  constructor
  · rintro ⟨inside, source⟩
    have found := after.lookup_of_mem inside
    by_cases written : name ∈ (order.map Record.ofFrame).map Record.fileName
    · obtain ⟨last, mem, rfl, foundLast⟩ := exists_lookup_putAll written
      rw [found, Option.some_inj] at foundLast
      rw [foundLast]
      exact List.mem_map_of_mem ((perm.map Record.ofFrame).mem_iff.mp mem)
    · rw [lookup_putAll_of_not_mem written] at found
      obtain ⟨-, frame, mem, same⟩ := alone _ (Listing.mem_of_lookup_eq_some found) source
      refine absurd ?_ written
      rw [show name = _ from same]
      exact List.mem_map_of_mem (List.mem_map_of_mem (perm.mem_iff.mpr mem))
  · intro stored
    obtain ⟨record, mem, equal⟩ := List.mem_map.mp stored
    cases equal
    have written : record.fileName ∈ (order.map Record.ofFrame).map Record.fileName :=
      List.mem_map_of_mem ((perm.map Record.ofFrame).mem_iff.mpr mem)
    -- No other frame has the name, so the record is the last one that was stored under it.
    obtain ⟨last, memLast, same, found⟩ := @exists_lookup_putAll before _ _ written
    have equal : last = record := List.inj_on_of_nodup_map numbered.nodup_fileName
      ((perm.map Record.ofFrame).mem_iff.mp memLast) mem same
    rw [equal] at found
    obtain ⟨frame, -, rfl⟩ := List.mem_map.mp mem
    exact ⟨Listing.mem_of_lookup_eq_some found, Record.isSourceName_ofFrame frame⟩

/-! ## Loading -/

theorem isNumbered_of_isLoadedFor {loaded : List Frame} (numbered : IsNumbered frames)
    (each : List.Forall₂ IsLoadedFor frames loaded) : IsNumbered loaded := by
  have indices : List.Forall₂ (· = ·) (frames.map Frame.index) (loaded.map Frame.index) := by
    rw [List.forall₂_map_left_iff, List.forall₂_map_right_iff]
    exact each.imp fun _ _ isLoaded => isLoaded.index.symm
  rw [List.forall₂_eq_eq_eq] at indices
  rw [IsNumbered, ← indices]
  exact numbered

/-- A frame is loaded with its own time unless that is a leap second within a minute. -/
theorem IsLoadedFor.capturedAt_eq_iff {loaded : Frame} (isLoaded : IsLoadedFor frame loaded) :
    loaded.capturedAt = frame.capturedAt ↔ frame.capturedAt.LeapsAtMinuteEnd := by
  rw [isLoaded.capturedAt, Time.Instant.reread_eq_self_iff]

/-- Frames that are numbered from 1 and have images are stored in any order; after that they are
loaded in the order of their numbers, with their images as payloads, however the system lists the
folder and whatever else it has under names that are no texts.  Their times are their own unless
they are leap seconds within a minute. -/
theorem loadFrames_of_store (numbered : IsNumbered frames)
    (images : ∀ frame ∈ frames, HasImage frame) (perm : order.Perm frames)
    (distinct : before.Distinct) (alone : HoldsOnly before frames) (path : String) :
    ∃ after, store path before (order.map .ofFrame) = (after, .ok ()) ∧
      ∀ foreign listed : Directory, listed.Perm (after.directory ++ foreign) → listed.Distinct →
        (∀ entry ∈ foreign, isSourceName (Text.lossy entry.1) = false) →
          ∃ loaded, loadFrames path (some listed) = .ok loaded ∧ IsNumbered loaded ∧
            loaded.length = frames.length ∧ List.Forall₂ IsLoadedFor frames loaded ∧
            List.Forall₂ (fun frame found => found.capturedAt = frame.capturedAt ↔
              frame.capturedAt.LeapsAtMinuteEnd) frames loaded := by
  have inOrder := numberedFrom_ofFrame numbered
  refine ⟨_, store_of_not_folder ?_, fun foreign listed listing single others => ?_⟩
  · intro record mem
    obtain ⟨frame, -, rfl⟩ := List.mem_map.mp mem
    exact alone.not_folder frame
  have nothing : foreign.filter (fun entry => isSourceName (Text.lossy entry.1)) = [] :=
    List.filter_eq_nil_iff.mpr fun entry mem => by rw [others entry mem]; exact Bool.false_ne_true
  have stored : (listed.filter fun entry => isSourceName (Text.lossy entry.1)).Perm
      (Listing.directory ((frames.map Record.ofFrame).map Record.stored)) := by
    refine (listing.filter _).trans ?_
    rw [List.filter_append, nothing, List.append_nil, Listing.filter_directory isSourceName]
    exact (filter_putAll_perm distinct alone inOrder perm).map _
  have records : loadContiguous path (some listed) isSourceName =
      .ok ((frames.map Record.ofFrame).map Record.reread) := by
    refine loadContiguous_stored single stored ?_ inOrder
    intro record mem
    obtain ⟨frame, -, rfl⟩ := List.mem_map.mp mem
    exact Record.finiteScores_ofFrame frame
  obtain ⟨loaded, read, each⟩ := exists_mapM_eq_ok fun frame mem =>
    exists_toFrame_ofFrame (images frame mem)
  refine ⟨loaded, ?_, isNumbered_of_isLoadedFor numbered each, each.length_eq.symm, each,
    each.imp fun _ _ isLoaded => isLoaded.capturedAt_eq_iff⟩
  have frameByFrame : ((frames.map Record.ofFrame).map Record.reread).mapM Record.toFrame =
      frames.mapM fun frame => (Record.ofFrame frame).reread.toFrame := by
    rw [List.map_map, List.mapM_map]
    rfl
  simp only [loadFrames, records, frameByFrame, read, Except.mapError]

/-- A frame with the bytes of its image. -/
def rawFrame : Frame := ⟨1, "a.jpg", "jpg", [0, 255], .raw, noon, 2⟩

/-- A frame with its image in base64. -/
def textFrame : Frame := ⟨2, "b.png", "png", Bytes.ofText "AQI=", .base64, noon, 2⟩

theorem image_textFrame : textFrame.image = .ok [1, 2] := by decide +kernel

/-- A folder with an earlier file of the first frame, among files and a folder of other kinds. -/
def crowdedFolder : Listing :=
  [("frame_00001_error.json", .file [0]), ("notes", .folder []), ("frame_00001.json", .file []),
    ("frame_00007_detected.json", .file [])]

/-- A file under a name that is no text. -/
def damagedName : Directory := [([0xFF], .file [])]

theorem distinct_append_damagedName {listing : Listing} (distinct : listing.Distinct) :
    Directory.Distinct (listing.directory ++ damagedName) := by
  rw [Directory.Distinct, List.map_append, List.nodup_append]
  refine ⟨distinct.directory, List.nodup_singleton _, ?_⟩
  intro name text other damaged same
  obtain ⟨entry, mem, rfl⟩ := List.mem_map.mp text
  obtain ⟨⟨known, node⟩, -, rfl⟩ := List.mem_map.mp mem
  have noText : Bytes.text? [0xFF] = none := by decide +kernel
  have bytes : Bytes.ofText known = [0xFF] := same.trans (List.mem_singleton.mp damaged)
  rw [← bytes, Bytes.text?_ofText] at noText
  cases noText

/-- The two frames are stored in the folder, the second one first, and loaded from a reversed
listing that begins with a name that is no text. -/
theorem loadFrames_of_store_crowdedFolder :
    ∃ after, store "frames" crowdedFolder ([textFrame, rawFrame].map .ofFrame) = (after, .ok ()) ∧
      ∃ loaded, loadFrames "frames" (some (after.directory ++ damagedName).reverse) = .ok loaded ∧
        loaded.map Frame.payload = [[0, 255], [1, 2]] ∧
        loaded.map Frame.capturedAt = [noon, noon] := by
  have alone : HoldsOnly crowdedFolder [rawFrame, textFrame] := by
    intro entry mem source
    have name : entry = ("frame_00001.json", .file []) := by
      simp only [crowdedFolder, List.mem_cons, List.not_mem_nil, or_false] at mem
      rcases mem with rfl | rfl | rfl | rfl
      · exact absurd source (by decide)
      · exact absurd source (by decide)
      · rfl
      · exact absurd source (by decide)
    rw [name]
    exact ⟨⟨[], rfl⟩, rawFrame, by simp, by decide⟩
  have images : ∀ frame ∈ [rawFrame, textFrame], HasImage frame := by
    intro frame mem
    simp only [List.mem_cons, List.not_mem_nil, or_false] at mem
    rcases mem with rfl | rfl
    · exact ⟨[0, 255], rfl, rfl⟩
    · exact ⟨[1, 2], image_textFrame, rfl⟩
  have numbered : IsNumbered [rawFrame, textFrame] := rfl
  have distinct : crowdedFolder.Distinct := show List.Nodup _ by decide
  have unrelated : ∀ entry ∈ damagedName, isSourceName (Text.lossy entry.1) = false := by
    intro entry mem
    rw [List.mem_singleton.mp mem]
    decide +kernel
  obtain ⟨after, stored, loads⟩ := loadFrames_of_store numbered images
    (.swap rawFrame textFrame []) distinct alone "frames"
  have single : Directory.Distinct (after.directory ++ damagedName) := by
    rw [store_eq_ok stored]
    exact distinct_append_damagedName (distinct_putAll distinct _)
  obtain ⟨loaded, found, -, -, each, times⟩ := loads damagedName _ (List.reverse_perm _)
    (single.perm (List.reverse_perm _).symm) unrelated
  refine ⟨after, stored, loaded, found, ?_⟩
  obtain _ | ⟨first, _ | ⟨second, _ | _⟩⟩ := each
  obtain _ | ⟨firstTime, _ | ⟨secondTime, _ | _⟩⟩ := times
  have firstImage := first.image
  have secondImage := second.image
  rw [image_textFrame] at secondImage
  rw [List.map_cons, List.map_cons, ← Except.ok.inj firstImage, ← Except.ok.inj secondImage,
    List.map_cons, List.map_cons, firstTime.mpr (by decide), secondTime.mpr (by decide)]
  exact ⟨rfl, rfl⟩

/-- A frame taken in a leap second that comes behind the fourth second of a minute. -/
def leapFrame : Frame := .ofImage 1 [1] "jpg" ⟨82564, 1333333333, by decide⟩

/-- A folder with a folder under the name of the frame. -/
def takenFolder : Listing := [((Record.ofFrame leapFrame).fileName, .folder [])]

theorem takenFolder_lookup :
    takenFolder.lookup (Record.ofFrame leapFrame).fileName = some (.folder []) :=
  List.lookup_cons_self

/-- Such a frame is loaded with another time, the fifth second of the minute; and it is neither
stored nor loaded where a folder has its name. -/
theorem loadFrames_of_store_leapFrame :
    (∃ after, store "frames" [] [.ofFrame leapFrame] = (after, .ok ()) ∧
      loadFrames "frames" (some after.directory) =
        .ok [{ leapFrame with capturedAt := ⟨82565, 333333333, by decide⟩ }] ∧
      loadFrames "frames" (some after.directory) ≠ .ok [leapFrame]) ∧
    ∃ fault, store "frames" takenFolder [.ofFrame leapFrame] = (takenFolder, .error fault) ∧
      loadFrames "frames" (some takenFolder.directory) = .error fault := by
  refine ⟨?_, .system (.ofText "frames/frame_00001.json") .isDirectory, ?_, by decide +kernel⟩
  · have plain : ∀ frame ∈ [leapFrame], IsPlain frame := by
      intro frame mem
      rw [List.mem_singleton.mp mem]
      exact ⟨rfl, rfl⟩
    have numbered : IsNumbered [leapFrame] := rfl
    have stored : store "frames" [] [.ofFrame leapFrame] =
        ([(Record.ofFrame leapFrame).stored], .ok ()) :=
      store_of_fresh (List.nodup_singleton _) fun _ _ taken => by cases taken
    have distinct : Listing.Distinct [(Record.ofFrame leapFrame).stored] := List.nodup_singleton _
    have source : [(Record.ofFrame leapFrame).stored].filter (fun entry => isSourceName entry.1) =
        [(Record.ofFrame leapFrame).stored] :=
      List.filter_eq_self.mpr fun entry mem => by
        rw [List.mem_singleton.mp mem]
        exact Record.isSourceName_ofFrame leapFrame
    have loads : loadFrames "frames"
        (some (Listing.directory [(Record.ofFrame leapFrame).stored])) = .ok [leapFrame.reread] := by
      refine loadFrames_stored distinct.directory ?_ numbered plain
      rw [Listing.filter_directory isSourceName, source]
      exact .refl _
    refine ⟨_, stored, loads, ?_⟩
    rw [loads]
    decide
  · have taken := write_of_folder takenFolder_lookup "frames"
    have place : inside "frames" (Record.ofFrame leapFrame).fileName =
      "frames/frame_00001.json" := by decide +kernel
    rw [store, taken, place]

end FrameCourier.Processing
