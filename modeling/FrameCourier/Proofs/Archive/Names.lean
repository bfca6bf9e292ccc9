import FrameCourier.Archive.Record
import FrameCourier.Proofs.Text.Digits

/-!
# Names of stored frames

The name that a record is stored under carries the number of its frame, and says of what kind
the record is: it is the name of a frame without an outcome, or of one with an outcome, and
never both.
-/

namespace FrameCourier.Archive

open Text

theorem afterStart?_append (start : String) (rest : List Char) :
    afterStart? start (start.toList ++ rest) = some rest := by
  have starts : start.toList.isPrefixOf (start.toList ++ rest) = true :=
    List.isPrefixOf_iff_prefix.mpr (List.prefix_append _ _)
  rw [afterStart?, if_pos starts, ← String.length_toList, List.drop_left]

theorem beforeEnd?_append (ending : String) (name : List Char) :
    beforeEnd? ending (name ++ ending.toList) = some name := by
  have ends : ending.toList.isSuffixOf (name ++ ending.toList) = true :=
    List.isSuffixOf_iff_suffix.mpr (List.suffix_append _ _)
  rw [beforeEnd?, if_pos ends, ← String.length_toList, List.length_append, Nat.add_sub_cancel,
    List.take_left]

/-- A name that ends in something else before a common end has not the same end. -/
theorem isSuffixOf_append_eq_false {ending name common : List Char} {c : Char}
    (last : ending.getLast? = some c) (other : name.getLast? ≠ some c) :
    (ending ++ common).isSuffixOf (name ++ common) = false := by
  rw [Bool.eq_false_iff]
  intro ends
  obtain ⟨front, equal⟩ := List.isSuffixOf_iff_suffix.mp ends
  rw [← List.append_assoc] at equal
  have whole := List.append_cancel_right equal
  rw [← whole, List.getLast?_append, last] at other
  exact other rfl

namespace Record

/-- The digits of the frame number in the name of a record. -/
def numberDigits (record : Record) : List Char := (padded 5 record.frameNumber.toNat).toList

theorem toList_fileName (record : Record) :
    record.fileName.toList = "frame_".toList ++
      (record.numberDigits ++ ((outcomeMark record.detection).toList ++ ".json".toList)) := by
  simp only [fileName, numberDigits, String.toList_append, List.append_assoc]

theorem allDigits_numberDigits (record : Record) : AllDigits record.numberDigits :=
  allDigits_padded 5 _

theorem numberDigits_ne_nil (record : Record) : record.numberDigits ≠ [] := padded_ne_nil 5 _

/-- What follows the number in a name is not a digit. -/
theorem endsDigitChars_outcomeMark (outcome : Option Outcome) :
    EndsDigitChars ((outcomeMark outcome).toList ++ ".json".toList) := by
  have first : ((outcomeMark outcome).toList ++ ".json".toList).head? = some '.' ∨
      ((outcomeMark outcome).toList ++ ".json".toList).head? = some '_' := by
    cases outcome with
    | none => exact .inl (by decide)
    | some outcome =>
      cases outcome with
      | completed => exact .inr (by simp only [outcomeMark]; decide)
      | failed => exact .inr (by simp only [outcomeMark]; decide)
  intro c head
  rw [head] at first
  rcases first with equal | equal <;> cases equal <;> rfl

/-- The name of a record carries its frame number. -/
theorem frameNumber?_fileName (record : Record) :
    frameNumber? record.fileName = some record.frameNumber := by
  have digits : (record.numberDigits ++
      ((outcomeMark record.detection).toList ++ ".json".toList)).takeWhile Char.isDigit =
      record.numberDigits :=
    takeWhile_digitChars record.allDigits_numberDigits (endsDigitChars_outcomeMark _)
  have ends : ".json".toList.isSuffixOf (record.numberDigits ++
      ((outcomeMark record.detection).toList ++ ".json".toList)) = true := by
    rw [← List.append_assoc]
    exact List.isSuffixOf_iff_suffix.mpr (List.suffix_append _ _)
  have number : Time.digitsValue record.numberDigits = record.frameNumber.toNat :=
    digitsValue_padded 5 _
  have nonempty : record.numberDigits.isEmpty = false :=
    List.isEmpty_eq_false_iff.mpr record.numberDigits_ne_nil
  have fits : ¬ Number.greatestWord32 < record.frameNumber.toNat :=
    Nat.not_lt.mpr (Nat.le_of_lt_succ record.frameNumber.toNat_lt)
  simp only [frameNumber?, toList_fileName, afterStart?_append, Option.bind_eq_bind,
    Option.bind_some, ends, digits, number, nonempty]
  simp [fits]

/-- Records of different frames have different names. -/
theorem frameNumber_eq_of_fileName_eq {record other : Record}
    (same : record.fileName = other.fileName) : record.frameNumber = other.frameNumber := by
  have numbers := frameNumber?_fileName record
  rw [same, frameNumber?_fileName] at numbers
  exact (Option.some.inj numbers).symm

/-- A number ends in a digit, so a name without a mark ends in none. -/
theorem isSuffixOf_unmarked (record : Record) {mark : List Char} {c : Char}
    (last : mark.getLast? = some c) (notDigit : c.isDigit = false) :
    (mark ++ ".json".toList).isSuffixOf
      (("frame_".toList ++ record.numberDigits) ++ ".json".toList) = false := by
  refine isSuffixOf_append_eq_false last fun equal => ?_
  obtain ⟨d, lastDigit⟩ := Option.isSome_iff_exists.mp
    (List.getLast?_isSome.mpr record.numberDigits_ne_nil)
  have digit : d.isDigit = true :=
    record.allDigits_numberDigits d (List.mem_of_getLast? lastDigit)
  rw [List.getLast?_append, lastDigit] at equal
  cases equal
  rw [digit] at notDigit
  cases notDigit

/-- The name of a record is that of a frame with an outcome if the record has one. -/
theorem isProcessedName_fileName (record : Record) :
    isProcessedName record.fileName = record.detection.isSome := by
  have detectedMark : "_detected.json".toList = "_detected".toList ++ ".json".toList := by decide
  have errorMark : "_error.json".toList = "_error".toList ++ ".json".toList := by decide
  have marked : ∀ mark : List Char,
      mark.isSuffixOf ("frame_".toList ++ (record.numberDigits ++ mark)) = true := fun mark => by
    rw [← List.append_assoc]
    exact List.isSuffixOf_iff_suffix.mpr (List.suffix_append _ _)
  rw [isProcessedName, toList_fileName, detectedMark, errorMark]
  cases record.detection with
  | none =>
    have detected : ("_detected".toList ++ ".json".toList).isSuffixOf _ = false :=
      record.isSuffixOf_unmarked (c := 'd') (by decide) (by decide)
    have error : ("_error".toList ++ ".json".toList).isSuffixOf _ = false :=
      record.isSuffixOf_unmarked (c := 'r') (by decide) (by decide)
    rw [List.append_assoc] at detected error
    simp only [outcomeMark, String.toList_empty, List.nil_append, detected, error]
    rfl
  | some outcome =>
    cases outcome with
    | completed => simp only [outcomeMark, marked, Bool.true_or, Option.isSome_some]
    | failed => simp only [outcomeMark, marked, Bool.or_true, Option.isSome_some]

/-- The name of a record is that of a frame without an outcome if the record has none. -/
theorem isSourceName_fileName (record : Record) :
    isSourceName record.fileName = record.detection.isNone := by
  rw [isSourceName, toList_fileName, afterStart?_append, Option.bind_some, ← List.append_assoc,
    beforeEnd?_append]
  have nonempty : record.numberDigits.isEmpty = false :=
    List.isEmpty_eq_false_iff.mpr record.numberDigits_ne_nil
  have digits : record.numberDigits.all Char.isDigit = true :=
    List.all_eq_true.mpr record.allDigits_numberDigits
  cases record.detection with
  | none => simp [outcomeMark, nonempty, digits]
  | some outcome =>
    have marked : (outcomeMark (some outcome)).toList.all Char.isDigit = false := by
      cases outcome <;> simp +decide [outcomeMark]
    simp [List.all_append, marked]

end Record

end FrameCourier.Archive
