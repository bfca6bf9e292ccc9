import FrameCourier.Archive.Reader
import FrameCourier.Proofs.Document.FiniteNumerals
import FrameCourier.Proofs.Time.Notation
import FrameCourier.Proofs.Wire.Responses

/-!
# Records are read as they are written

The file of a record is read as the record, with what is read for its scores and its times in
their place.  A draft takes the members of the file one after the other, each into a field of its
own.
-/

namespace FrameCourier.Archive

open Document Ascii

variable {α : Type}

/-! ## Scores as they are read -/

/-- The number that is read from the numeral of a number. -/
def reread (x : Number.Double) : Number.Double :=
  match numeral (numberLiteral (.real x)) with
  | .ok (.real y, _) => y
  | _ => x

theorem numeral_reread {x : Number.Double} (finite : x.isFinite = true) :
    numeral (numberLiteral (.real x)) = .ok (.real (reread x), []) := by
  obtain ⟨y, read⟩ := exists_numeral_real finite
  simp only [reread, read]

/-- What is read for a number: for a floating-point number the one that its numeral gives. -/
def numeralReread : Numeral → Document
  | .integer n => .number (.integer n)
  | .real x => .number (.real (reread x))

/-- A prediction with the score that is read for it. -/
def rereadPrediction (prediction : Wire.Prediction) : Wire.Prediction :=
  { prediction with score := reread prediction.score }

namespace Outcome

/-- The predictions of an outcome. -/
def predictions : Outcome → List Wire.Prediction
  | .completed _ _ predictions _ => predictions
  | .failed .. => []

/-- An outcome with the scores that are read for it. -/
def rereadScores : Outcome → Outcome
  | .completed timestamp objects predictions processingTime =>
    .completed timestamp objects (predictions.map rereadPrediction) processingTime
  | .failed timestamp status error => .failed timestamp status error

/-- An outcome with the time that is read for its own. -/
def rereadTimes : Outcome → Outcome
  | .completed timestamp objects predictions processingTime =>
    .completed timestamp.reread objects predictions processingTime
  | .failed timestamp status error => .failed timestamp.reread status error

/-- An outcome as it is read from its document. -/
def reread (outcome : Outcome) : Outcome := outcome.rereadScores.rereadTimes

/-- All scores of an outcome are finite. -/
def FiniteScores (outcome : Outcome) : Prop :=
  ∀ prediction ∈ outcome.predictions, prediction.score.isFinite = true

theorem withNumbers_toDocument (outcome : Outcome) :
    outcome.toDocument.withNumbers numeralReread = outcome.rereadScores.toDocument := by
  cases outcome with
  | completed timestamp objects predictions processingTime =>
    simp [toDocument, rereadScores, withNumbers, membersWithNumbers, itemsWithNumbers_eq_map,
      numeralReread, timeDocument, Wire.Prediction.toDocument, Wire.Prediction.members,
      Wire.Prediction.boxDocument, rereadPrediction, Function.comp_def]
  | failed timestamp status error =>
    simp [toDocument, rereadScores, withNumbers, membersWithNumbers, timeDocument]

theorem legible_toDocument {outcome : Outcome} (finite : outcome.FiniteScores) {depth : Nat} :
    Legible numeralReread (depth + 4) outcome.toDocument := by
  have integers : ∀ n, numeralReread (.integer n) = .number (.integer n) := fun _ => rfl
  cases outcome with
  | completed timestamp objects predictions processingTime =>
    have countReads : Numeral.ReadsBack (.integer objects.toNat) := by
      have bound := objects.toNat_lt
      exact readsBack_natCast (Nat.le_of_lt_succ bound)
    refine .object fun member inside => ?_
    simp only [List.mem_cons, List.not_mem_nil, or_false] at inside
    rcases inside with rfl | rfl | rfl | rfl
    · exact .text _
    · exact .number countReads.readAs
    · refine .list fun document listed => ?_
      obtain ⟨prediction, inside, rfl⟩ := List.mem_map.mp listed
      exact Wire.Prediction.legible_toDocument integers
        (.number (numeral_reread (finite prediction inside)))
    · exact .number (Wire.Prediction.readsBack_toInt processingTime).readAs
  | failed timestamp status error =>
    refine .object fun member inside => ?_
    simp only [List.mem_cons, List.not_mem_nil, or_false] at inside
    rcases inside with rfl | rfl | rfl <;> exact .text _

/-! ## Outcomes -/

theorem asTime_timeDocument (t : Time.Instant) : asTime (timeDocument t) = .ok t.reread := by
  simp [asTime, timeDocument, t.readRelaxed_text, bind, Except.bind, pure, Except.pure]

theorem shape_prediction (prediction : Wire.Prediction) :
    Wire.Prediction.shape prediction.toDocument = .ok prediction := by
  have fitting : ∀ member ∈ prediction.members,
      Members.Fitting Wire.Prediction.fields false member := by
    simp [Wire.Prediction.members, Wire.Prediction.fields, Members.Fitting, Field.of, Except.map,
      Wire.Prediction.asBox_boxDocument]
  have checked : Members.check Wire.Prediction.fields false [] prediction.members = .ok () :=
    Members.check_eq_ok fitting prediction.nodup_members fun _ _ => List.not_mem_nil
  show Wire.Prediction.shape (.object prediction.members) = _
  simp only [Wire.Prediction.shape, checked, Members.required]
  simp [Wire.Prediction.members, Members.value?_cons, Wire.Prediction.asBox_boxDocument, bind,
    Except.bind, pure, Except.pure]

theorem asList_predictions (predictions : List Wire.Prediction) :
    asList Wire.Prediction.shape (.list (predictions.map Wire.Prediction.toDocument)) =
      .ok predictions :=
  asList_map fun prediction _ => shape_prediction prediction

/-- An outcome is told apart by its members alone: a failure has no predictions. -/
theorem shape_toDocument (outcome : Outcome) :
    shape outcome.toDocument = .ok outcome.rereadTimes := by
  cases outcome with
  | completed timestamp objects predictions processingTime =>
    have listed := asList_predictions predictions
    have time := asTime_timeDocument timestamp
    simp [shape, toDocument, rereadTimes, asCompleted, Members.check, completedFields, Field.of,
      Members.required, Members.value?_cons, time, listed, Except.map, bind, Except.bind, pure,
      Except.pure]
  | failed timestamp status error =>
    have time := asTime_timeDocument timestamp
    simp [shape, toDocument, rereadTimes, asCompleted, asFailed, Members.check, completedFields,
      failedFields, Field.of, Members.required, Members.value?_cons, time, Except.map, bind,
      Except.bind, pure, Except.pure]

theorem prettyAt_opens (outcome : Outcome) (line : Nat) :
    ∃ t, prettyAt line outcome.toDocument = openBrace :: t := by
  cases outcome <;> exact ⟨_, rfl⟩

/-- An outcome is read from its field. -/
theorem field_prettyAt {outcome : Outcome} (finite : outcome.FiniteScores) (line : Nat)
    (rest : Bytes) :
    field (prettyAt line outcome.toDocument ++ rest) = .ok (outcome.reread, rest) := by
  have legible : Legible numeralReread (122 + 4) outcome.toDocument := legible_toDocument finite
  have spells := legible.spells_prettyAt line
  rw [withNumbers_toDocument] at spells
  have follows : outcome.rereadScores.toDocument.Follows rest := by cases outcome <;> trivial
  have read := spells.value follows
  have depth : depthLimit - 1 = 122 + 4 := rfl
  simp only [field, depth, read, shape_toDocument]
  rfl

end Outcome

/-! ## Fields -/

section

variable {blanks : Bytes} (blank : IsBlank blanks)

include blank

theorem textFieldOf_literal (wanted text : String) (rest : Bytes) :
    textFieldOf wanted (blanks ++ (textLiteral text ++ rest)) = .ok (text, rest) := by
  obtain ⟨t, written, read⟩ := textBody_name text rest
  rw [written, textFieldOf, blank.skipBlank rfl]
  simp only [if_true, read]

theorem timeField_literal (t : Time.Instant) (rest : Bytes) :
    timeField (blanks ++ (textLiteral t.text ++ rest)) = .ok (t.reread, rest) := by
  simp only [timeField, textFieldOf_literal blank, t.readRelaxed_text]

theorem integerField_literal {n : Numeral} (reads : Numeral.ReadsBack n) {shape : Shape α} {x : α}
    (shapes : shape (.number n) = .ok x) (wanted : String) {rest : Bytes}
    (ends : EndsNumber rest) :
    integerField shape wanted (blanks ++ (numberLiteral n ++ rest)) = .ok (x, rest) := by
  have read := reads rest ends
  obtain ⟨b, t, written, starts⟩ := startsNumber_of_numeral read
  have notBlank := (isOpening_separate (isOpening_of_startsNumber starts)).1
  rw [written] at read ⊢
  simp only [integerField, blank.skipBlank notBlank, starts, if_true, read, shapes, placedShape]

/-- A field that is not null. -/
theorem optionalField_of_opening {field : Bytes → Scan α} {b : UInt8} {s rest : Bytes} {x : α}
    (opens : isBlank b = false ∧ b ≠ lowerN) (read : field (b :: s) = .ok (x, rest)) :
    optionalField field (blanks ++ b :: s) = .ok (some x, rest) := by
  unfold optionalField
  rw [blank.skipBlank opens.1]
  split
  · next equal => exact absurd (List.cons.inj equal).1 opens.2
  · rw [read]
    rfl

end

namespace Draft

/-- A field that was not met before is read behind the colon. -/
theorem fresh_none (name : String) (field : Bytes → Scan α) (s : Bytes) :
    fresh name none field (colon :: s) = field s := by
  have passes : nameColon (colon :: s) = .ok s :=
    nameColon_of_skipBlank (skipBlank_of_not_isBlank rfl _)
  simp [fresh, namedValue, passes]

end Draft

/-! ## Records -/

namespace Record

/-- A record with what is read for its scores and times. -/
def reread (record : Record) : Record :=
  { record with
    timestamp := record.timestamp.reread
    detection := record.detection.map Outcome.reread }

/-- All scores of a record are finite. -/
def FiniteScores (record : Record) : Prop :=
  ∀ outcome ∈ record.detection, outcome.FiniteScores

/-- The members that every record is written with. -/
def frameMembers (record : Record) : Members :=
  [("frameNumber", Document.number (.integer record.frameNumber.toNat)),
    ("originalFileName", .text record.originFileName),
    ("timestamp", .text record.timestamp.text), ("format", .text record.format),
    ("size", .number (.integer record.size.toNat)), ("imageData", .text record.imageData)]

def detectionMembers (record : Record) : Members :=
  (record.detection.map fun outcome => ("detection", outcome.toDocument)).toList

def annotatedMembers (record : Record) : Members :=
  (record.annotatedImageData.map fun image => ("annotatedImageData", Document.text image)).toList

/-- What stands behind the names of members. -/
def writtenParts (members : Members) : List (String × Bytes) :=
  members.map fun member => (member.1, [space] ++ prettyAt 1 member.2)

/-- What is known of a record when its frame is read. -/
def frameDraft (record : Record) : Draft :=
  ⟨some record.frameNumber, some record.originFileName, some record.timestamp.reread,
    some record.format, some record.size, some record.imageData, none, none⟩

theorem isBlank_space : IsBlank [space] := by decide

theorem readsMembers_frame (record : Record) :
    ReadsMembers Draft.member Draft.empty (writtenParts record.frameMembers)
      record.frameDraft := by
  obtain ⟨number, name, time, format, size, image, detection, annotated⟩ := record
  obtain ⟨when, same⟩ : ∃ when, time.reread = when := ⟨_, rfl⟩
  simp only [frameDraft, same]
  have numberReads : Numeral.ReadsBack (.integer number.toNat) :=
    readsBack_natCast (Nat.le_trans (Nat.le_of_lt_succ number.toNat_lt) (by decide))
  have sizeReads : Numeral.ReadsBack (.integer size.toNat) :=
    readsBack_natCast (Nat.le_of_lt_succ size.toNat_lt)
  -- Each member fills one more field of the draft.
  have first : ∀ rest, EndsNumber rest →
      Draft.member Draft.empty "frameNumber"
        (colon :: ([space] ++ prettyAt 1 (.number (.integer number.toNat)) ++ rest)) =
        .ok (⟨some number, none, none, none, none, none, none, none⟩, rest) := by
    intro rest ends
    simp only [Draft.member, Draft.empty, Draft.fresh_none, List.append_assoc, prettyAt,
      integerField_literal isBlank_space numberReads (asUInt32_toNat number) "u32" ends, Except.map]
  have second : ∀ rest, EndsNumber rest →
      Draft.member ⟨some number, none, none, none, none, none, none, none⟩ "originalFileName"
        (colon :: ([space] ++ prettyAt 1 (.text name) ++ rest)) =
        .ok (⟨some number, some name, none, none, none, none, none, none⟩, rest) := by
    intro rest _
    simp only [Draft.member, Draft.fresh_none, List.append_assoc, prettyAt, textField,
      textFieldOf_literal isBlank_space, Except.map]
  have third : ∀ rest, EndsNumber rest →
      Draft.member ⟨some number, some name, none, none, none, none, none, none⟩ "timestamp"
        (colon :: ([space] ++ prettyAt 1 (.text time.text) ++ rest)) =
        .ok (⟨some number, some name, some when, none, none, none, none, none⟩, rest) := by
    intro rest _
    simp only [Draft.member, Draft.fresh_none, List.append_assoc, prettyAt,
      timeField_literal isBlank_space, same, Except.map]
  have fourth : ∀ rest, EndsNumber rest →
      Draft.member ⟨some number, some name, some when, none, none, none, none, none⟩ "format"
        (colon :: ([space] ++ prettyAt 1 (.text format) ++ rest)) =
        .ok (⟨some number, some name, some when, some format, none, none, none, none⟩, rest) := by
    intro rest _
    simp only [Draft.member, Draft.fresh_none, List.append_assoc, prettyAt, textField,
      textFieldOf_literal isBlank_space, Except.map]
  have fifth : ∀ rest, EndsNumber rest →
      Draft.member ⟨some number, some name, some when, some format, none, none, none, none⟩ "size"
        (colon :: ([space] ++ prettyAt 1 (.number (.integer size.toNat)) ++ rest)) =
        .ok (⟨some number, some name, some when, some format, some size, none, none, none⟩,
          rest) := by
    intro rest ends
    simp only [Draft.member, Draft.fresh_none, List.append_assoc, prettyAt,
      integerField_literal isBlank_space sizeReads (asCount_toNat size) "usize" ends, Except.map]
  have sixth : ∀ rest, EndsNumber rest →
      Draft.member ⟨some number, some name, some when, some format, some size, none, none, none⟩
        "imageData" (colon :: ([space] ++ prettyAt 1 (.text image) ++ rest)) =
        .ok (⟨some number, some name, some when, some format, some size, some image, none, none⟩,
          rest) := by
    intro rest _
    simp only [Draft.member, Draft.fresh_none, List.append_assoc, prettyAt, textField,
      textFieldOf_literal isBlank_space, Except.map]
  exact .more first <| .more second <| .more third <| .more fourth <| .more fifth <|
    .more sixth <| .none _

/-- The draft after the member of an outcome, if there is one. -/
def outcomeDraft (record : Record) : Draft :=
  { record.frameDraft with detection := record.detection.map fun outcome => some outcome.reread }

/-- The draft after all members. -/
def fullDraft (record : Record) : Draft :=
  { record.outcomeDraft with annotatedImageData := record.annotatedImageData.map some }

theorem readsMembers_detection {record : Record} (finite : record.FiniteScores) :
    ReadsMembers Draft.member record.frameDraft (writtenParts record.detectionMembers)
      record.outcomeDraft := by
  obtain ⟨number, name, time, format, size, image, detection, annotated⟩ := record
  cases detection with
  | none => exact .none _
  | some outcome =>
    refine .more (fun rest _ => ?_) (.none _)
    obtain ⟨t, opens⟩ := outcome.prettyAt_opens 1
    have read := Outcome.field_prettyAt (finite outcome rfl) 1 rest
    rw [opens, List.cons_append] at read
    have found := optionalField_of_opening isBlank_space ⟨rfl, by decide⟩ read
    simp only [frameDraft, Draft.member, Draft.fresh_none, opens, List.append_assoc,
      List.cons_append]
    simp only [List.cons_append] at found
    rw [found]
    rfl

theorem readsMembers_annotated (record : Record) :
    ReadsMembers Draft.member record.outcomeDraft (writtenParts record.annotatedMembers)
      record.fullDraft := by
  obtain ⟨number, name, time, format, size, image, detection, annotated⟩ := record
  cases annotated with
  | none => exact .none _
  | some annotated =>
    refine .more (fun rest _ => ?_) (.none _)
    obtain ⟨t, written, _⟩ := textBody_name annotated rest
    have read := textFieldOf_literal isBlank_nil "a string" annotated rest
    rw [List.nil_append, written] at read
    have found := optionalField_of_opening isBlank_space ⟨rfl, by decide⟩ read
    simp only [outcomeDraft, frameDraft, Draft.member, Draft.fresh_none, prettyAt,
      List.append_assoc, written]
    rw [show textField = textFieldOf "a string" from rfl, found]
    rfl

theorem readsMembers_members {record : Record} (finite : record.FiniteScores) :
    ReadsMembers Draft.member Draft.empty
      (writtenParts (record.frameMembers ++ record.detectionMembers ++ record.annotatedMembers))
      record.fullDraft := by
  simp only [writtenParts, List.map_append]
  exact ((readsMembers_frame record).append (readsMembers_detection finite)).append
    (readsMembers_annotated record)

theorem toRecord_fullDraft (record : Record) : record.fullDraft.toRecord = .ok record.reread := by
  obtain ⟨number, name, time, format, size, image, detection, annotated⟩ := record
  cases detection <;> cases annotated <;> rfl

/-- The file of a record is read as the record, its scores and times as they are read. -/
theorem read_toBytes {record : Record} (finite : record.FiniteScores) :
    Record.read record.toBytes = .ok record.reread := by
  have members := members_joined (isBlank_lineBreak 1) (isBlank_lineBreak 0)
    (readsMembers_members finite) []
  have written : record.toBytes = openBrace ::
      (lineBreak 1 ++ (joined (comma :: lineBreak 1) ((writtenParts (record.frameMembers ++
        record.detectionMembers ++ record.annotatedMembers)).map namedPart) ++
        (lineBreak 0 ++ [closeBrace]))) := by
    rw [toBytes, pretty, show record.toDocument = .object (record.frameMembers ++
      record.detectionMembers ++ record.annotatedMembers) from rfl, prettyAt, prettyMembers_eq_map]
    · simp [writtenParts, Function.comp_def]
    · simp [frameMembers]
  have ends : objectEnd [closeBrace] = .ok [] := rfl
  have scanned : scan record.toBytes = .ok (record.reread, []) := by
    rw [written]
    simp only [scan, skipBlank_of_not_isBlank (show isBlank openBrace = false from rfl), if_true,
      objectRecord, members, ends, placedShape, toRecord_fullDraft]
  simp only [Record.read, scanned]
  rfl

end Record

end FrameCourier.Archive
