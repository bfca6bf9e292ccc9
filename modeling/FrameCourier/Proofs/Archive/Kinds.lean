import FrameCourier.Proofs.Archive.OutputFrames

/-!
# Kinds of stored frames

A frame is stored as it was taken, with what was detected on it, or with the error that its
detection ended in.  The name of a record says of which frame it is and of which of these kinds,
and nothing else: records share a name exactly if they agree in both, so to store one of them
leaves the files of all others as they are.
-/

namespace FrameCourier.Archive

/-- How far a stored frame has come. -/
inductive Kind where
  | source
  | detected
  | error
  deriving DecidableEq, Repr

/-- What stands for a kind in a name. -/
def Kind.mark : Kind → String
  | source => ""
  | detected => "_detected"
  | error => "_error"

theorem Kind.mark_inj {kind other : Kind} (same : kind.mark = other.mark) : kind = other := by
  revert same
  cases kind <;> cases other <;> decide

namespace Record

variable {record other : Record}

/-- The kind of a record, by what came of its frame's detection. -/
def kind (record : Record) : Kind :=
  match record.detection with
  | none => .source
  | some (.completed ..) => .detected
  | some (.failed ..) => .error

theorem outcomeMark_eq (record : Record) : outcomeMark record.detection = record.kind.mark := by
  unfold outcomeMark kind
  cases record.detection with
  | none => rfl
  | some outcome => cases outcome <;> rfl

/-- Behind its number a name says of what kind the record is. -/
theorem kind_eq_of_fileName_eq (same : record.fileName = other.fileName) :
    record.kind = other.kind := by
  have digits : record.numberDigits = other.numberDigits := by
    rw [numberDigits, numberDigits, frameNumber_eq_of_fileName_eq same]
  have names := congrArg String.toList same
  rw [toList_fileName, toList_fileName, digits] at names
  have marks := List.append_cancel_right
    (List.append_cancel_left (List.append_cancel_left names))
  rw [outcomeMark_eq, outcomeMark_eq] at marks
  exact Kind.mark_inj (String.toList_inj.mp marks)

theorem fileName_eq_iff : record.fileName = other.fileName ↔
    record.frameNumber = other.frameNumber ∧ record.kind = other.kind := by
  constructor
  · intro same
    exact ⟨frameNumber_eq_of_fileName_eq same, kind_eq_of_fileName_eq same⟩
  · intro ⟨numbers, kinds⟩
    rw [fileName, fileName, outcomeMark_eq, outcomeMark_eq, numbers, kinds]

end Record

/-- To store a record leaves what stands under any other name as it is. -/
theorem lookup_of_write_eq_ok {path name : String} {listing written : Listing} {record : Record}
    (success : write path (some listing) record = .ok written) (apart : name ≠ record.fileName) :
    written.lookup name = listing.lookup name := by
  obtain ⟨here, same, success⟩ := write_eq_ok_iff.mp success
  cases same
  rw [Listing.write_eq_ok success]
  exact Listing.lookup_put_of_ne apart _ _

/-- A name carries the number of its frame, and is that of a frame without an outcome or of one
with an outcome, never of both.  Two records share a name exactly if they are of one frame and one
kind; to store a record of another frame or another kind leaves a file as it is. -/
theorem fileName_distinguishes (record other : Record) :
    frameNumber? record.fileName = some record.frameNumber ∧
    (isSourceName record.fileName = true ↔ record.detection = none) ∧
    (isProcessedName record.fileName = true ↔ record.detection ≠ none) ∧
    ¬(isSourceName record.fileName = true ∧ isProcessedName record.fileName = true) ∧
    (record.fileName = other.fileName ↔
      record.frameNumber = other.frameNumber ∧ record.kind = other.kind) ∧
    ∀ path listing written, write path (some listing) record = .ok written →
      (record.frameNumber ≠ other.frameNumber ∨ record.kind ≠ other.kind) →
      written.lookup other.fileName = listing.lookup other.fileName := by
  have source : isSourceName record.fileName = true ↔ record.detection = none := by
    rw [record.isSourceName_fileName, Option.isNone_iff_eq_none]
  have processed : isProcessedName record.fileName = true ↔ record.detection ≠ none := by
    rw [record.isProcessedName_fileName, Option.isSome_iff_ne_none]
  refine ⟨record.frameNumber?_fileName, source, processed, ?_, Record.fileName_eq_iff, ?_⟩
  · intro ⟨isSource, isProcessed⟩
    exact processed.mp isProcessed (source.mp isSource)
  · intro path listing written success apart
    apply lookup_of_write_eq_ok success
    intro same
    obtain ⟨numbers, kinds⟩ := Record.fileName_eq_iff.mp same.symm
    cases apart with
    | inl otherNumber => exact otherNumber numbers
    | inr otherKind => exact otherKind kinds

/-- The record of a failed frame is stored beside that of the frame whose number goes on with
another digit, which stays. -/
theorem fileName_distinguishes_longerNumber :
    ∃ written, write "frames" (some [((failedRecord 100000).fileName, .file [0])])
        (failedRecord 10000) = .ok written ∧
      written.lookup (failedRecord 100000).fileName = some (.file [0]) := by
  obtain ⟨-, -, -, -, -, stays⟩ :=
    fileName_distinguishes (failedRecord 10000) (failedRecord 100000)
  have noFolder : ∀ inner, List.lookup (failedRecord 10000).fileName
      [((failedRecord 100000).fileName, Node.file [0])] ≠ some (.folder inner) := by
    intro inner found
    have entry := Listing.mem_of_lookup_eq_some found
    rw [List.mem_singleton] at entry
    cases (Prod.mk.inj entry).2
  obtain ⟨written, success⟩ : ∃ written, write "frames"
      (some [((failedRecord 100000).fileName, .file [0])]) (failedRecord 10000) = .ok written :=
    ⟨_, write_eq_ok_iff.mpr ⟨_, rfl, Listing.write_of_not_folder noFolder _⟩⟩
  refine ⟨written, success, ?_⟩
  rw [stays "frames" _ written success (.inl (by decide))]
  exact List.lookup_cons_self

end FrameCourier.Archive
