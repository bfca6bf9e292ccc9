import FrameCourier.Proofs.Archive.Loading
import FrameCourier.Proofs.Wire.Scores

/-!
# Records are restored

Scores in hundredths are read as they are written, and so are times without a leap second within a
minute: a record with such scores and times is read as it was written, whatever else is in its
folder and whatever was there under its name.  A leap second within a minute comes back as the next
second.
-/

namespace FrameCourier.Archive

open Number

/-! ## Scores in hundredths -/

/-- A score that the client takes for one is finite. -/
theorem isFinite_of_isUnitScore {score : Double} (unit : Client.isUnitScore score = true) :
    score.isFinite = true := by
  have zero : (Binary.zero Format.double false).key = 0 := rfl
  have one : (Binary.ofInt Format.double 1).key < Format.double.infinityCode := by decide +kernel
  simp only [Client.isUnitScore, Binary.le, Bool.and_eq_true, decide_eq_true_eq, zero] at unit
  have key : 0 ≤ score.key ∧ score.key < Format.double.infinityCode :=
    ⟨unit.1.2, Int.lt_of_le_of_lt unit.2.2 one⟩
  simp only [Binary.isFinite, decide_eq_true_eq]
  unfold Binary.key at key
  split at key <;> omega

theorem reread_of_isHundredth {score : Double} (hundredth : Wire.IsHundredth score) :
    reread score = score := by
  simp only [reread, hundredth.isScore.1]

namespace Record

/-- All scores of a record are hundredths from 0 to 1. -/
def HundredthScores (record : Record) : Prop :=
  ∀ outcome, record.detection = some outcome →
    ∀ prediction ∈ outcome.predictions, Wire.IsHundredth prediction.score

variable {record : Record}

theorem HundredthScores.finiteScores (hundredths : record.HundredthScores) :
    record.FiniteScores := fun outcome detected prediction mem =>
  isFinite_of_isUnitScore (hundredths outcome detected prediction mem).isScore.2

/-- A record with the times that are read for its own. -/
def rereadTimes (record : Record) : Record :=
  { record with
    timestamp := record.timestamp.reread
    detection := record.detection.map Outcome.rereadTimes }

theorem HundredthScores.rereadScores_eq {outcome : Outcome} (hundredths : record.HundredthScores)
    (detected : record.detection = some outcome) : outcome.rereadScores = outcome := by
  cases outcome with
  | failed => rfl
  | completed timestamp objects predictions processingTime =>
    have same : predictions.map rereadPrediction = predictions := by
      refine (List.map_congr_left fun prediction mem => ?_).trans (List.map_id predictions)
      rw [rereadPrediction, reread_of_isHundredth (hundredths _ detected prediction mem)]
      rfl
    simp only [Outcome.rereadScores, same]

theorem HundredthScores.reread_eq (hundredths : record.HundredthScores) :
    record.reread = record.rereadTimes := by
  cases detected : record.detection with
  | none => rw [reread, rereadTimes, detected, Option.map_none, Option.map_none]
  | some outcome =>
    rw [reread, rereadTimes, detected, Option.map_some, Option.map_some, Outcome.reread,
      hundredths.rereadScores_eq detected]

end Record

/-! ## Leap seconds within a minute -/

/-- The time of an outcome. -/
def Outcome.timestamp : Outcome → Time.Instant
  | .completed timestamp .. => timestamp
  | .failed timestamp .. => timestamp

theorem Outcome.rereadTimes_eq_self_iff {outcome : Outcome} :
    outcome.rereadTimes = outcome ↔ outcome.timestamp.LeapsAtMinuteEnd := by
  cases outcome <;> simp [rereadTimes, timestamp, Time.Instant.reread_eq_self_iff]

/-- Leap seconds among the times of a record come at the end of a minute only. -/
structure Record.LeapsAtMinuteEnd (record : Record) : Prop where
  captured : record.timestamp.LeapsAtMinuteEnd
  detected : ∀ outcome, record.detection = some outcome → outcome.timestamp.LeapsAtMinuteEnd

theorem Record.rereadTimes_eq_self_iff {record : Record} :
    record.rereadTimes = record ↔ record.LeapsAtMinuteEnd := by
  constructor
  · intro same
    refine ⟨Time.Instant.reread_eq_self_iff.mp (congrArg Record.timestamp same), ?_⟩
    intro outcome detected
    have outcomes := congrArg Record.detection same
    simp only [rereadTimes, detected, Option.map_some, Option.some_inj] at outcomes
    exact Outcome.rereadTimes_eq_self_iff.mp outcomes
  · rintro ⟨captured, detected⟩
    obtain ⟨number, name, time, format, size, image, detection, annotated⟩ := record
    have time' := Time.Instant.reread_eq_self_iff.mpr captured
    cases detection with
    | none => simp [rereadTimes, time']
    | some outcome =>
      have outcome' := Outcome.rereadTimes_eq_self_iff.mpr (detected outcome rfl)
      simp [rereadTimes, time', outcome']

/-! ## Files of records -/

variable {path : String} {record : Record}

theorem read_of_lookup {listing : Listing}
    (found : listing.lookup record.fileName = some (.file record.toBytes))
    (finite : record.FiniteScores) :
    read path (some listing) record.fileName = .ok record.reread := by
  simp only [read, nodeOf, Option.bind_some, found, readNode, Node.content,
    Record.read_toBytes finite, Except.mapError]

/-- The file that was written is read as the record. -/
theorem read_of_write {listing : Option Listing} {written : Listing}
    (success : write path listing record = .ok written) (finite : record.FiniteScores) :
    read path (some written) record.fileName = .ok record.reread := by
  obtain ⟨here, rfl, placed⟩ := write_eq_ok_iff.mp success
  rw [Listing.write_eq_ok placed]
  exact read_of_lookup (Listing.lookup_put_self _ _ _) finite

/-- A record is written wherever there is a folder that has no folder under its name. -/
theorem exists_write_iff {listing : Option Listing} :
    (∃ written, write path listing record = .ok written) ↔
      ∃ here : Listing, listing = some here ∧
        ∀ inner, here.lookup record.fileName ≠ some (.folder inner) := by
  simp only [write_eq_ok_iff]
  constructor
  · rintro ⟨written, here, rfl, success⟩
    exact ⟨here, rfl, Listing.not_folder_of_write_eq_ok success⟩
  · rintro ⟨here, rfl, noFolder⟩
    exact ⟨_, here, rfl, Listing.write_of_not_folder noFolder _⟩

/-- A record is written wherever there is a folder that has no folder under its name, and the
file that is written is read as the record, with the times that are read for its own: they are its
own exactly if leap seconds come at the end of a minute. -/
theorem read_write (path : String) (listing : Option Listing) {record : Record}
    (hundredths : record.HundredthScores) :
    ((∃ written, write path listing record = .ok written) ↔
      ∃ here : Listing, listing = some here ∧
        ∀ inner, here.lookup record.fileName ≠ some (.folder inner)) ∧
    (∀ written, write path listing record = .ok written →
      read path (some written) record.fileName = .ok record.rereadTimes) ∧
    (record.rereadTimes = record ↔ record.LeapsAtMinuteEnd) := by
  refine ⟨exists_write_iff, fun written success => ?_, Record.rereadTimes_eq_self_iff⟩
  rw [read_of_write success hundredths.finiteScores, hundredths.reread_eq]

/-- A record from a leap second before the year 0, answered in the year 10000: its number has six
digits, its name has to be escaped, one of its scores is a negative zero, its images are empty. -/
def oddRecord : Record :=
  ⟨700000, "a\"\\\n\u2028/é.jpg", ⟨-62167219201, 1999999999, by decide⟩, "", 0, "",
    some (.completed ⟨253402300800, 1000, by decide⟩ 3
      [⟨"cat", .zero _ true, ⟨-1, 0, 1, 2⟩⟩, ⟨"", Wire.hundredth 29, ⟨0, 0, 0, 0⟩⟩] (-5)),
    some ""⟩

/-- Such a record is written over another file, and read again. -/
theorem read_write_oddRecord :
    oddRecord.HundredthScores ∧ oddRecord.LeapsAtMinuteEnd ∧
    ∃ written, write "frames" (some [(oddRecord.fileName, .file [0])]) oddRecord = .ok written ∧
      read "frames" (some written) oddRecord.fileName = .ok oddRecord := by
  have hundredths : oddRecord.HundredthScores := by
    rintro _ ⟨⟩ prediction mem
    rcases List.mem_cons.mp mem with rfl | mem
    · exact .inr rfl
    · rw [List.mem_singleton.mp mem]
      exact .inl ⟨29, by decide, rfl⟩
  have leaps : oddRecord.LeapsAtMinuteEnd := by
    refine ⟨by decide, ?_⟩
    rintro _ ⟨⟩
    decide
  obtain ⟨writes, reads, same⟩ :=
    read_write "frames" (some [(oddRecord.fileName, .file [0])]) hundredths
  have noFolder : ∀ inner, List.lookup oddRecord.fileName [(oddRecord.fileName, .file [0])] ≠
      some (Node.folder inner) := by
    rw [List.lookup_cons_self]
    rintro inner ⟨⟩
  obtain ⟨written, success⟩ := writes.mpr ⟨_, rfl, noFolder⟩
  have restored := reads written success
  rw [same.mpr leaps] at restored
  exact ⟨hundredths, leaps, written, success, restored⟩

/-- A record from a leap second that comes behind the fourth second of a minute. -/
def leapRecord : Record :=
  ⟨1, "a.jpg", ⟨86164, 1333333333, by decide⟩, "jpg", 0, "", none, none⟩

/-- Such a record is read with another time, the fifth second of the minute; and it is not written
over a folder, which then is what its name is read as. -/
theorem read_write_leapRecord :
    (∃ written, write "frames" (some []) leapRecord = .ok written ∧
      read "frames" (some written) leapRecord.fileName =
        .ok { leapRecord with timestamp := ⟨86165, 333333333, by decide⟩ } ∧
      read "frames" (some written) leapRecord.fileName ≠ .ok leapRecord) ∧
    write "frames" (some [(leapRecord.fileName, .folder [])]) leapRecord =
      .error (.system (.ofText (inside "frames" leapRecord.fileName)) .isDirectory) ∧
    read "frames" (some [(leapRecord.fileName, .folder [])]) leapRecord.fileName =
      .error (.system (.ofText (inside "frames" leapRecord.fileName)) .isDirectory) := by
  refine ⟨?_, write_of_folder List.lookup_cons_self _, read_of_folder List.lookup_cons_self _⟩
  have finite : leapRecord.FiniteScores := by
    rintro _ ⟨⟩
  obtain ⟨written, success⟩ : ∃ written, write "frames" (some []) leapRecord = .ok written :=
    exists_write_iff.mpr ⟨[], rfl, by rintro inner ⟨⟩⟩
  have restored := read_of_write success finite
  have time : leapRecord.reread = { leapRecord with timestamp := ⟨86165, 333333333, by decide⟩ } :=
    rfl
  refine ⟨written, success, restored.trans (congrArg Except.ok time), ?_⟩
  rw [restored, time]
  intro same
  have seconds := congrArg (fun record => record.timestamp.seconds) (Except.ok.inj same)
  cases seconds

end FrameCourier.Archive
