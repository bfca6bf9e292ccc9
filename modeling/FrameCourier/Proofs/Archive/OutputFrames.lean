import FrameCourier.Proofs.Archive.Frames

/-!
# Output frames are the stored outcomes

The output frames of a folder are those of its files with an outcome: each file gives one frame, in
the order of the numbers in their names, and the numbers in their records count 1, 2 and so on.  A
folder whose records do not count so has no output frames at all, and the order in which the
system lists the folder shows nowhere, whatever bytes its names are.

The number in a name only gives the place of a file; the number in its record is the one that is
checked and that the frame has.  Files whose names tell one number are loaded if their records count.
-/

namespace FrameCourier.Archive

variable {path : String} {fallback : Bool} {directory : Directory}

/-! ## One file -/

/-- A frame that is made of a record has its number. -/
theorem Record.index_of_toOutputFrame {record : Record} {frame : OutputFrame}
    (success : record.toOutputFrame fallback = .ok frame) : frame.index = record.frameNumber := by
  unfold toOutputFrame at success
  split at success
  · split at success <;> cases success
    rfl
  · split at success
    · split at success <;> cases success
      rfl
    · cases success

namespace Entry

/-- The file of an entry holds a record. -/
def Holds (path : String) (entry : Entry) (record : Record) : Prop :=
  readNode (placeOf path entry.listed) entry.node = .ok record

/-- The file of an entry gives an output frame. -/
def Gives (path : String) (fallback : Bool) (entry : Entry) (frame : OutputFrame) : Prop :=
  ∃ record, entry.Holds path record ∧ record.toOutputFrame fallback = .ok frame

end Entry

/-! ## Entries one after the other -/

/-- Entries are read exactly if each holds a record and the records count them. -/
theorem readContiguous_eq_ok_iff {first : Nat} {entries : List Entry} {records : List Record} :
    readContiguous path first entries = .ok records ↔
      CountsFrom first (records.map Record.frameNumber) ∧
        List.Forall₂ (Entry.Holds path) entries records := by
  constructor
  · exact readContiguous_eq_ok
  · rintro ⟨counts, each⟩
    induction each generalizing first with
    | nil => rfl
    | cons read _ ih =>
      obtain ⟨placed, rest⟩ := countsFrom_cons.mp counts
      unfold Entry.Holds at read
      simp only [readContiguous, read, placed, ih rest, ne_eq, not_true_eq_false, if_false,
        Except.map]

/-- Output frames are numbered like the records that they are made of. -/
theorem map_index_eq {records : List Record} {out : List OutputFrame}
    (each : List.Forall₂ (fun record frame => Record.toOutputFrame record fallback = .ok frame)
      records out) :
    out.map OutputFrame.index = records.map Record.frameNumber := by
  induction each with
  | nil => rfl
  | cons made _ ih => rw [List.map_cons, List.map_cons, Record.index_of_toOutputFrame made, ih]

/-! ## The files of a folder -/

/-- The files of a folder with an outcome, in the order in which the system lists them. -/
def outcomesOf (directory : Directory) : List Entry :=
  (directory.filter fun entry => isProcessedName (Text.lossy entry.1)).filterMap Entry.of?

/-- The output frames that a folder holds: one for each file with an outcome, by the number in its
name and then by its name, and counted from 1 by their records. -/
def IsOutputOf (path : String) (fallback : Bool) (directory : Directory)
    (out : List OutputFrame) : Prop :=
  ∃ used : List Entry, used.Perm (outcomesOf directory) ∧
    used.Pairwise (fun a b => Entry.le a b = true) ∧
    List.Forall₂ (Entry.Gives path fallback) used out ∧
    CountsFrom 1 (out.map OutputFrame.index)

/-- A folder is loaded exactly if it holds output frames, and these are loaded. -/
theorem loadOutputFrames_eq_ok_iff (distinct : directory.Distinct) {out : List OutputFrame} :
    loadOutputFrames path (some directory) fallback = .ok out ↔
      IsOutputOf path fallback directory out := by
  simp only [loadOutputFrames, loadContiguous, entries, filter_entriesOf distinct]
  constructor
  · intro success
    split at success
    · cases success
    · next records read =>
      obtain ⟨counts, held⟩ := readContiguous_eq_ok_iff.mp read
      have made := forall₂_of_mapM_eq_ok (mapError_eq_ok.mp success)
      refine ⟨_, entriesOf_perm_filterMap _, pairwise_entriesOf _, forall₂_comp held made, ?_⟩
      rw [map_index_eq made]
      exact counts
  · rintro ⟨used, perm, inOrder, each, counts⟩
    -- The order of entries is total, so those used are the entries in the order of the loop.
    obtain ⟨records, held, made⟩ := exists_forall₂_of_forall₂_comp each
    rw [map_index_eq made] at counts
    rw [entriesOf_eq_of_perm (distinct.filter _) perm inOrder,
      readContiguous_eq_ok_iff.mpr ⟨counts, held⟩]
    exact mapError_eq_ok.mpr (mapM_eq_ok_of_forall₂ made)

/-- In whatever order the system lists a folder, the same is loaded. -/
theorem loadOutputFrames_perm (distinct : directory.Distinct) {others : Directory}
    (perm : directory.Perm others) :
    loadOutputFrames path (some others) fallback =
      loadOutputFrames path (some directory) fallback := by
  simp only [loadOutputFrames, loadContiguous, entries, entriesOf_perm distinct perm]

/-! ## What cannot be loaded -/

/-- A folder that holds no output frames has an error. -/
theorem exists_error_of_not_isOutputOf (distinct : directory.Distinct)
    (none : ∀ out, ¬ IsOutputOf path fallback directory out) :
    ∃ error, loadOutputFrames path (some directory) fallback = .error error := by
  cases loaded : loadOutputFrames path (some directory) fallback with
  | error error => exact ⟨error, rfl⟩
  | ok out => exact absurd ((loadOutputFrames_eq_ok_iff distinct).mp loaded) (none out)

/-- The file at a place among those used holds the record of that number. -/
theorem exists_holds_of_getElem? {used : List Entry} {out : List OutputFrame}
    (each : List.Forall₂ (Entry.Gives path fallback) used out)
    (counts : CountsFrom 1 (out.map OutputFrame.index))
    {position : Nat} {entry : Entry} (placed : used[position]? = some entry) :
    ∃ record, entry.Holds path record ∧ record.frameNumber = UInt32.ofNat (position + 1) := by
  obtain ⟨frame, place, record, holds, made⟩ := forall₂_getElem? each placed
  refine ⟨record, holds, ?_⟩
  have counted : (out.map OutputFrame.index)[position]? = some frame.index := by
    rw [List.getElem?_map, place, Option.map_some]
  rw [← Record.index_of_toOutputFrame made, Nat.add_comm]
  exact counts.eq_of_getElem? counted

namespace IsOutputOf

variable {out : List OutputFrame} (isOutput : IsOutputOf path fallback directory out)

include isOutput

/-- There are as many output frames as files with an outcome. -/
theorem length_eq : out.length = (outcomesOf directory).length := by
  obtain ⟨used, perm, -, each, -⟩ := isOutput
  rw [← each.length_eq, perm.length_eq]

/-- The output frames are numbered 1, 2 and so on, unless they are too many. -/
theorem isCount (few : (outcomesOf directory).length < 2 ^ 32) :
    IsCount 1 (out.map OutputFrame.index) := by
  rw [← isOutput.length_eq] at few
  obtain ⟨used, -, -, -, counts⟩ := isOutput
  exact isCount_one_iff.mpr ⟨counts, by rwa [List.length_map]⟩

/-- Two files with an outcome do not hold records of one number, unless they are too many. -/
theorem eq_of_frameNumber_eq (few : (outcomesOf directory).length < 2 ^ 32)
    {first second : Entry} (insideFirst : first ∈ outcomesOf directory)
    (insideSecond : second ∈ outcomesOf directory) {record other : Record}
    (holds : first.Holds path record) (holdsOther : second.Holds path other)
    (same : record.frameNumber = other.frameNumber) : first = second := by
  obtain ⟨used, perm, -, each, counts⟩ := isOutput
  obtain ⟨p, placed⟩ := List.mem_iff_getElem?.mp (perm.mem_iff.mpr insideFirst)
  obtain ⟨q, placedOther⟩ := List.mem_iff_getElem?.mp (perm.mem_iff.mpr insideSecond)
  obtain ⟨found, read, number⟩ := exists_holds_of_getElem? each counts placed
  obtain ⟨foundOther, readOther, numberOther⟩ := exists_holds_of_getElem? each counts placedOther
  cases read.symm.trans holds
  cases readOther.symm.trans holdsOther
  obtain ⟨insideP, -⟩ := List.getElem?_eq_some_iff.mp placed
  obtain ⟨insideQ, -⟩ := List.getElem?_eq_some_iff.mp placedOther
  rw [← perm.length_eq] at few
  have numbers := congrArg UInt32.toNat (number.symm.trans (same.trans numberOther))
  rw [UInt32.toNat_ofNat_of_lt' (by rw [UInt32.size]; omega),
    UInt32.toNat_ofNat_of_lt' (by rw [UInt32.size]; omega)] at numbers
  rw [Nat.add_right_cancel numbers, placedOther] at placed
  exact (Option.some.inj placed).symm

/-- Below the number of a record every number from 1 on is that of a record. -/
theorem exists_holds_of_lt {entry : Entry} (inside : entry ∈ outcomesOf directory)
    {record : Record} (holds : entry.Holds path record) {number : UInt32} (positive : number ≠ 0)
    (below : number < record.frameNumber) :
    ∃ other ∈ outcomesOf directory, ∃ found : Record, other.Holds path found ∧
      found.frameNumber = number := by
  obtain ⟨used, perm, -, each, counts⟩ := isOutput
  obtain ⟨p, placed⟩ := List.mem_iff_getElem?.mp (perm.mem_iff.mpr inside)
  obtain ⟨read, readHolds, place⟩ := exists_holds_of_getElem? each counts placed
  cases readHolds.symm.trans holds
  obtain ⟨bound, -⟩ := List.getElem?_eq_some_iff.mp placed
  -- The number of a place is at most the place itself, so the place of the other number is before.
  have small : record.frameNumber.toNat ≤ p + 1 := by
    rw [place, UInt32.toNat_ofNat']
    exact Nat.mod_le _ _
  have less := UInt32.lt_iff_toNat_lt.mp below
  have some : 0 < number.toNat :=
    Nat.pos_of_ne_zero fun zero => positive (UInt32.toNat_inj.mp zero)
  have earlier : number.toNat - 1 < used.length := by omega
  obtain ⟨found, foundHolds, foundNumber⟩ :=
    exists_holds_of_getElem? each counts (List.getElem?_eq_getElem earlier)
  refine ⟨_, perm.mem_iff.mp (List.getElem_mem earlier), found, foundHolds, ?_⟩
  rw [foundNumber, Nat.sub_add_cancel some, UInt32.ofNat_toNat]

end IsOutputOf

/-- What is loaded from a folder does not depend on the order in which the system lists it.  Output
frames are loaded exactly if the folder holds them: one for each file with an outcome, none left out
and none used twice, counted from 1 in their order.  A number that is missing below another one is
an error.  Of fewer files than there are numbers the output frames are numbered 1, 2 and so on, and
two files with records of one number are an error. -/
theorem loadOutputFrames_inOrder (distinct : directory.Distinct) (path : String)
    (fallback : Bool) :
    (∀ others : Directory, directory.Perm others →
      loadOutputFrames path (some others) fallback =
        loadOutputFrames path (some directory) fallback) ∧
    (∀ out, loadOutputFrames path (some directory) fallback = .ok out ↔
      IsOutputOf path fallback directory out) ∧
    (∀ entry ∈ outcomesOf directory, ∀ record : Record, entry.Holds path record →
      ∀ missing : UInt32, missing ≠ 0 → missing < record.frameNumber →
        (∀ other ∈ outcomesOf directory, ∀ found : Record, other.Holds path found →
          found.frameNumber ≠ missing) →
            ∃ error, loadOutputFrames path (some directory) fallback = .error error) ∧
    ((outcomesOf directory).length < 2 ^ 32 →
      (∀ out, loadOutputFrames path (some directory) fallback = .ok out →
        IsCount 1 (out.map OutputFrame.index)) ∧
      (∀ first ∈ outcomesOf directory, ∀ second ∈ outcomesOf directory, first ≠ second →
        ∀ record other : Record, first.Holds path record → second.Holds path other →
          record.frameNumber = other.frameNumber →
            ∃ error, loadOutputFrames path (some directory) fallback = .error error)) := by
  refine ⟨fun others perm => loadOutputFrames_perm distinct perm,
    fun out => loadOutputFrames_eq_ok_iff distinct, ?_, fun few => ⟨?_, ?_⟩⟩
  · intro entry inside record holds missing positive below nowhere
    apply exists_error_of_not_isOutputOf distinct
    intro out isOutput
    obtain ⟨other, insideOther, found, foundHolds, number⟩ :=
      isOutput.exists_holds_of_lt inside holds positive below
    exact nowhere other insideOther found foundHolds number
  · intro out loaded
    exact ((loadOutputFrames_eq_ok_iff distinct).mp loaded).isCount few
  · intro first insideFirst second insideSecond differ record other holds holdsOther same
    apply exists_error_of_not_isOutputOf distinct
    intro out isOutput
    exact differ (isOutput.eq_of_frameNumber_eq few insideFirst insideSecond holds holdsOther same)

/-- The record of an annotated frame. -/
def annotatedRecord : Record :=
  ⟨1, "a.jpg", noon, "jpg", 2, "AP8=", some (.completed noon 0 [] 0), some "AQI="⟩

/-- The record of a frame whose detection failed. -/
def failedRecord (number : UInt32) : Record :=
  ⟨number, "b.jpg", noon, "jpg", 1, "AA==", some (.failed noon "error" "lost"), none⟩

/-- A folder with two outcomes, one of them under a name without padding, among other things, one
of which has a name that is no text. -/
def outcomeFolder : Directory :=
  [(.ofText "frame_2_error.json", .file (failedRecord 2).toBytes), ([0xFF, 0xFE], .folder []),
    (.ofText "frame_00001_detected.json", .file annotatedRecord.toBytes),
    (.ofText "frame_00003.json", .file [])]

/-- A folder with an outcome under a name for an annotated first frame, and one under a name for a
failed first frame. -/
def repeatedFolder (number : UInt32) : Directory :=
  [(.ofText "frame_00001_detected.json", .file annotatedRecord.toBytes),
    (.ofText "frame_00001_error.json", .file (failedRecord number).toBytes)]

theorem distinct_repeatedFolder (number : UInt32) : (repeatedFolder number).Distinct :=
  show List.Nodup [Bytes.ofText "frame_00001_detected.json", Bytes.ofText "frame_00001_error.json"]
    by decide +kernel

/-- The entry for the first file of that folder. -/
def detectedEntry : Entry :=
  ⟨1, "frame_00001_detected.json", .ofText "frame_00001_detected.json",
    .file annotatedRecord.toBytes⟩

/-- The entry for the second one. -/
def failedEntry (number : UInt32) : Entry :=
  ⟨1, "frame_00001_error.json", .ofText "frame_00001_error.json",
    .file (failedRecord number).toBytes⟩

theorem outcomesOf_repeatedFolder (number : UInt32) :
    outcomesOf (repeatedFolder number) = [detectedEntry, failedEntry number] := by
  have processed : isProcessedName "frame_00001_detected.json" = true := by decide
  have processedToo : isProcessedName "frame_00001_error.json" = true := by decide
  have first : frameNumber? "frame_00001_detected.json" = some 1 := by decide +kernel
  have second : frameNumber? "frame_00001_error.json" = some 1 := by decide +kernel
  simp [outcomesOf, repeatedFolder, Bytes.lossy_ofText, Entry.of?, processed, processedToo, first,
    second, detectedEntry, failedEntry]

/-- The entry for the file without padding in the other folder. -/
def unpaddedEntry : Entry :=
  ⟨2, "frame_2_error.json", .ofText "frame_2_error.json", .file (failedRecord 2).toBytes⟩

theorem outcomesOf_outcomeFolder : outcomesOf outcomeFolder = [unpaddedEntry, detectedEntry] := by
  have processed : isProcessedName "frame_2_error.json" = true := by decide
  have damaged : isProcessedName (Text.lossy [0xFF, 0xFE]) = false := by decide +kernel
  have processedToo : isProcessedName "frame_00001_detected.json" = true := by decide
  have source : isProcessedName "frame_00003.json" = false := by decide
  have first : frameNumber? "frame_2_error.json" = some 2 := by decide +kernel
  have second : frameNumber? "frame_00001_detected.json" = some 1 := by decide +kernel
  simp [outcomesOf, outcomeFolder, Bytes.lossy_ofText, Entry.of?, processed, damaged, processedToo,
    source, first, second, unpaddedEntry, detectedEntry]

theorem holds_annotatedRecord (path : String) (number : UInt32) (name : String) (listed : Bytes) :
    Entry.Holds path ⟨number, name, listed, .file annotatedRecord.toBytes⟩ annotatedRecord :=
  Record.readNode_entry (fun outcome inside => by cases inside; intro _ none; cases none) _

theorem holds_failedRecord (path : String) (number frame : UInt32) (name : String)
    (listed : Bytes) :
    Entry.Holds path ⟨number, name, listed, .file (failedRecord frame).toBytes⟩
      (failedRecord frame) :=
  Record.readNode_entry
    (fun outcome inside => by cases inside; intro prediction none; cases none) _

/-- The two outcomes are loaded in order from a reversed listing; with records of one frame they are
refused. -/
theorem loadOutputFrames_outcomeFolder :
    outcomeFolder.Distinct ∧
      loadOutputFrames "processed" (some outcomeFolder.reverse) true =
        .ok [⟨1, [1, 2]⟩, ⟨2, [0]⟩] ∧
      (outcomesOf (repeatedFolder 1)).length < 2 ^ 32 ∧
      ∃ error, loadOutputFrames "processed" (some (repeatedFolder 1)) true = .error error := by
  have distinct : outcomeFolder.Distinct :=
    show List.Nodup [Bytes.ofText "frame_2_error.json", [0xFF, 0xFE],
      Bytes.ofText "frame_00001_detected.json", Bytes.ofText "frame_00003.json"] by decide +kernel
  have few : (outcomesOf (repeatedFolder 1)).length < 2 ^ 32 := by
    rw [outcomesOf_repeatedFolder]
    decide
  obtain ⟨anyOrder, loads, -⟩ := loadOutputFrames_inOrder distinct "processed" true
  obtain ⟨-, -, -, refuses⟩ :=
    loadOutputFrames_inOrder (distinct_repeatedFolder 1) "processed" true
  refine ⟨distinct, ?_, few, ?_⟩
  · rw [anyOrder _ outcomeFolder.reverse_perm.symm, loads]
    refine ⟨[detectedEntry, unpaddedEntry], ?_, ?_, ?_, rfl⟩
    · rw [outcomesOf_outcomeFolder]
      exact .swap ..
    · decide +kernel
    · exact .cons ⟨_, holds_annotatedRecord .., by decide +kernel⟩
        (.cons ⟨_, holds_failedRecord .., by decide +kernel⟩ .nil)
  · refine (refuses few).2 detectedEntry ?_ (failedEntry 1) ?_ ?_ annotatedRecord (failedRecord 1)
      (holds_annotatedRecord ..) (holds_failedRecord ..) rfl
    · rw [outcomesOf_repeatedFolder]
      exact .head _
    · rw [outcomesOf_repeatedFolder]
      exact .tail _ (.head _)
    · simp [detectedEntry, failedEntry]

/-- Names for the first frame alone do not make two outcomes those of one frame: records of the
frames 1 and 2 are loaded from under them. -/
theorem loadOutputFrames_sharedNumber :
    (outcomesOf (repeatedFolder 2)).map Entry.number = [1, 1] ∧
      loadOutputFrames "processed" (some (repeatedFolder 2)) true =
        .ok [⟨1, [1, 2]⟩, ⟨2, [0]⟩] := by
  have listed := outcomesOf_repeatedFolder 2
  refine ⟨by rw [listed]; rfl, ?_⟩
  rw [loadOutputFrames_eq_ok_iff (distinct_repeatedFolder 2)]
  refine ⟨[detectedEntry, failedEntry 2], listed ▸ .refl _, ?_, ?_, rfl⟩
  · decide +kernel
  · exact .cons ⟨_, holds_annotatedRecord .., by decide +kernel⟩
      (.cons ⟨_, holds_failedRecord .., by decide +kernel⟩ .nil)

end FrameCourier.Archive
