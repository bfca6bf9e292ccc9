import FrameCourier.Proofs.Archive.Names
import FrameCourier.Proofs.Archive.Order
import FrameCourier.Proofs.Archive.Records
import FrameCourier.Proofs.Number.Counting
import FrameCourier.Proofs.Text.Utf8
import FrameCourier.Proofs.Traversal

/-!
# Archives are loaded as they were stored

If the selected files of a folder are records that are numbered from 1, they are loaded in the
order of their numbers, whatever else is in the folder and however the system lists it.
Whenever a folder is loaded at all, the numbers that are loaded count the entries.
-/

namespace FrameCourier.Archive

namespace Record

/-- What a stored record is in its folder. -/
def stored (record : Record) : String × Node := (record.fileName, .file record.toBytes)

/-- What a stored record is among the entries of its folder. -/
def entry (record : Record) : Entry :=
  ⟨record.frameNumber, record.fileName, .ofText record.fileName, .file record.toBytes⟩

theorem of?_stored (record : Record) :
    Entry.of? (.ofText record.fileName, .file record.toBytes) = some record.entry :=
  Entry.of?_eq_some_iff.mpr
    ⟨rfl, (Bytes.lossy_ofText record.fileName).symm, record.frameNumber?_fileName⟩

theorem readNode_entry {record : Record} (finite : record.FiniteScores) (path : Bytes) :
    readNode path record.entry.node = .ok record.reread := by
  simp only [readNode, entry, Node.content, read_toBytes finite, Except.mapError]

end Record

/-- A record is stored by writing its file into the folder. -/
theorem write_eq_ok_iff {path : String} {listing : Option Listing} {record : Record}
    {written : Listing} :
    write path listing record = .ok written ↔
      ∃ here, listing = some here ∧ here.write record.fileName record.toBytes = .ok written := by
  cases listing with
  | none => simp [write]
  | some here => simp [write, mapError_eq_ok]

section

variable {record : Record} {here inner : Listing}
  (taken : here.lookup record.fileName = some (.folder inner))

include taken

/-- Nothing is written over a folder. -/
theorem write_of_folder (path : String) : write path (some here) record =
    .error (.system (.ofText (inside path record.fileName)) .isDirectory) := by
  simp only [write, Listing.write, taken, Except.mapError]

/-- A folder is not read as a record. -/
theorem read_of_folder (path : String) : read path (some here) record.fileName =
    .error (.system (.ofText (inside path record.fileName)) .isDirectory) := by
  simp only [read, nodeOf, Option.bind_some, taken, readNode, Node.content]

end

/-- Records numbered one after the other. -/
def NumberedFrom (first : Nat) (records : List Record) : Prop :=
  IsCount first (records.map Record.frameNumber)

namespace NumberedFrom

variable {first : Nat} {record : Record} {records : List Record}

theorem head (numbered : NumberedFrom first (record :: records)) :
    record.frameNumber.toNat = first :=
  (isCount_cons.mp numbered).1

theorem tail (numbered : NumberedFrom first (record :: records)) :
    NumberedFrom (first + 1) records :=
  (isCount_cons.mp numbered).2

theorem pairwise_lt (numbered : NumberedFrom first records) :
    records.Pairwise fun a b => a.frameNumber < b.frameNumber :=
  List.pairwise_map.mp (IsCount.pairwise_lt numbered)

theorem nodup_fileName (numbered : NumberedFrom first records) :
    (records.map Record.fileName).Nodup := by
  rw [List.Nodup, List.pairwise_map]
  exact numbered.pairwise_lt.imp fun below same =>
    absurd (Record.frameNumber_eq_of_fileName_eq same ▸ below) (UInt32.lt_irrefl _)

theorem distinct_stored (numbered : NumberedFrom first records) :
    Listing.Distinct (records.map Record.stored) := by
  rw [Listing.Distinct, Listing.names, List.map_map]
  exact numbered.nodup_fileName

theorem pairwise_entry (numbered : NumberedFrom first records) :
    (records.map Record.entry).Pairwise fun a b => Entry.le a b = true :=
  List.pairwise_map.mpr (numbered.pairwise_lt.imp fun below => Entry.le_iff.mpr (.inl below))

end NumberedFrom

theorem readContiguous_entries {path : String} {first : Nat} {records : List Record}
    (finite : ∀ record ∈ records, record.FiniteScores) (numbered : NumberedFrom first records) :
    readContiguous path first (records.map Record.entry) =
      .ok (records.map Record.reread) := by
  induction records generalizing first with
  | nil => rfl
  | cons record records ih =>
    have read := Record.readNode_entry (finite record List.mem_cons_self)
      (placeOf path record.entry.listed)
    have others := ih (fun other inside => finite other (List.mem_cons_of_mem _ inside))
      numbered.tail
    have placed : record.reread.frameNumber = UInt32.ofNat first := by
      rw [← numbered.head, UInt32.ofNat_toNat]
      rfl
    simp only [List.map_cons, readContiguous, read, placed, others, ne_eq, not_true_eq_false,
      if_false, Except.map]

section

variable {directory : Directory} {selected : String → Bool} {records : List Record}
  (distinct : directory.Distinct)
  (stored : (directory.filter fun entry => selected (Text.lossy entry.1)).Perm
    (Listing.directory (records.map Record.stored)))

include distinct stored

/-- The entries of a folder whose selected files are records. -/
theorem filter_entriesOf_stored {first : Nat} (numbered : NumberedFrom first records) :
    (entriesOf directory).filter (fun entry => selected entry.name) =
      records.map Record.entry := by
  rw [filter_entriesOf distinct]
  have entries : (Listing.directory (records.map Record.stored)).filterMap Entry.of? =
      records.map Record.entry := by
    simp only [Listing.directory, List.filterMap_map, Function.comp_def, Record.stored,
      Record.of?_stored, List.filterMap_eq_map']
  exact entriesOf_eq_of_perm (distinct.filter _) (entries ▸ (stored.filterMap _).symm)
    numbered.pairwise_entry

/-- Records that are stored are loaded, in the order of their numbers. -/
theorem loadContiguous_stored {path : String} (finite : ∀ record ∈ records, record.FiniteScores)
    (numbered : NumberedFrom 1 records) :
    loadContiguous path (some directory) selected = .ok (records.map Record.reread) := by
  simp only [loadContiguous, entries, filter_entriesOf_stored distinct stored numbered,
    readContiguous_entries finite numbered]

end

/-- What is read from entries counts them. -/
theorem readContiguous_eq_ok {path : String} {first : Nat} {entries : List Entry}
    {records : List Record} (success : readContiguous path first entries = .ok records) :
    CountsFrom first (records.map Record.frameNumber) ∧
      List.Forall₂ (fun entry record =>
        readNode (placeOf path entry.listed) entry.node = .ok record) entries records := by
  induction entries generalizing first records with
  | nil =>
    cases success
    exact ⟨rfl, .nil⟩
  | cons entry entries ih =>
    simp only [readContiguous] at success
    split at success
    · cases success
    · next record read =>
      split at success
      · cases success
      · next placed =>
        obtain ⟨others, readOthers, rfl⟩ := eq_ok_of_map_eq_ok success
        obtain ⟨counts, readAll⟩ := ih readOthers
        exact ⟨countsFrom_cons.mpr ⟨not_not.mp placed, counts⟩, .cons read readAll⟩

end FrameCourier.Archive
