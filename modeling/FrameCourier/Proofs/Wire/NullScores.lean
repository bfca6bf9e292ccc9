import FrameCourier.Proofs.Wire.Responses

/-!
# Scores that are no numbers

A document has no numeral for a score that is no number: it is written as null, and no reader of
predictions takes null for a score.  A response with such a score is a complete document, but it
is refused as a whole.
-/

namespace FrameCourier.Wire

open Document

/-- What is read for a number: null if it has no numeral. -/
def numeralOrNull : Numeral → Document
  | .integer n => .number (.integer n)
  | .real x => if x.isNotANumber then .null else .number (.real x)

/-- A score that is read as it is written, unless it is no number. -/
def ReadsBackOrNull (score : Number.Double) : Prop :=
  score.isNotANumber = false → Numeral.ReadsBack (.real score)

/-- The refusal of null as a score. -/
def nullScore : Mismatch := .wrongType .null "f64"

theorem numberLiteral_of_isNotANumber {x : Number.Double} (noNumber : x.isNotANumber = true) :
    numberLiteral (.real x) = Bytes.ofText "null" := by
  simp [numberLiteral, Number.Binary.text, noNumber, Number.Layout.document]

theorem numeralOrNull_of_isNotANumber {x : Number.Double} (noNumber : x.isNotANumber = true) :
    numeralOrNull (.real x) = .null := by
  simp [numeralOrNull, noNumber]

theorem numeralOrNull_of_number {x : Number.Double} (number : x.isNotANumber = false) :
    numeralOrNull (.real x) = .number (.real x) := by
  simp [numeralOrNull, number]

theorem readAs_numeralOrNull {score : Number.Double} (reads : ReadsBackOrNull score) :
    Numeral.ReadAs (.real score) (numeralOrNull (.real score)) := by
  cases noNumber : score.isNotANumber with
  | true =>
    rw [numeralOrNull_of_isNotANumber noNumber]
    exact .null (numberLiteral_of_isNotANumber noNumber)
  | false =>
    rw [numeralOrNull_of_number noNumber]
    exact (reads noNumber).readAs

namespace Prediction

theorem withNumbers_boxDocument (box : PixelBox) :
    (boxDocument box).withNumbers numeralOrNull = boxDocument box := by
  simp [boxDocument, withNumbers, itemsWithNumbers, numeralOrNull]

theorem withNumbers_toDocument (prediction : Prediction) :
    prediction.toDocument.withNumbers numeralOrNull =
      .object [("class", .text prediction.label),
        ("score", numeralOrNull (.real prediction.score)), ("bbox", boxDocument prediction.box)] := by
  simp [toDocument, members, withNumbers, membersWithNumbers, withNumbers_boxDocument]

/-- A prediction is read unless its score is null. -/
theorem shape_withNumbers (prediction : Prediction) :
    shape (prediction.toDocument.withNumbers numeralOrNull).settle =
      if prediction.score.isNotANumber then .error nullScore else .ok prediction := by
  rw [withNumbers_toDocument]
  cases noNumber : prediction.score.isNotANumber with
  | false =>
    rw [numeralOrNull_of_number noNumber]
    exact prediction.shape_toDocument
  | true =>
    have refused : Members.RefusedSettled fields nullScore ("score", .null) :=
      ⟨.of "score" asReal, by simp [fields, Field.of], rfl⟩
    have others : ∀ member ∈ [("class", Document.text prediction.label), ("score", .null),
        ("bbox", boxDocument prediction.box)], member.1 ≠ "score" →
          Members.FitsSettled fields false member := by
      simp [fields, Members.FitsSettled, Members.Fitting, Field.of, settle, Except.map,
        settle_boxDocument, asBox_boxDocument]
    have checked := Members.check_final_error (by simp [Members.names]) (by simp) refused others
    rw [numeralOrNull_of_isNotANumber noNumber, if_pos rfl]
    show shape (.object (Members.final _)) = _
    simp only [shape, checked]
    rfl

end Prediction

namespace Success

/-- The members of a success as they are read. -/
theorem withNumbers_members (report : Success) :
    membersWithNumbers numeralOrNull report.members =
      [("status", .text "success"),
        ("objects", Document.number (.integer report.objects.toNat)),
        ("predictions",
          .list (report.predictions.map fun p => p.toDocument.withNumbers numeralOrNull)),
        ("timestamp", .text report.timestamp)] ++
      (report.requestTimestamp.map fun time =>
        ("original_timestamp", Document.text time)).toList ++
      (report.annotatedImage.map fun image => ("annotated_image", Document.text image)).toList := by
  obtain ⟨objects, predictions, timestamp, requestTimestamp, annotatedImage⟩ := report
  cases requestTimestamp <;> cases annotatedImage <;>
    simp [members, membersWithNumbers, withNumbers, numeralOrNull, itemsWithNumbers_eq_map,
      Function.comp_def]

theorem nodup_withNumbers (report : Success) :
    (Members.names (membersWithNumbers numeralOrNull report.members)).Nodup := by
  have written := report.nodup_members
  simpa [Members.names, membersWithNumbers_eq_map, Function.comp_def] using written

variable {report : Success}
  (some : ∃ prediction ∈ report.predictions, prediction.score.isNotANumber = true)

include some

/-- The predictions are refused for a score that is null. -/
theorem asList_withNumbers :
    asList Prediction.shape
      (settle (.list (report.predictions.map fun p => p.toDocument.withNumbers numeralOrNull))) =
      .error nullScore := by
  rw [settle, settleItems_eq_map, List.map_map]
  obtain ⟨bad, inside, noNumber⟩ := some
  refine asList_map_error (fun prediction _ => ?_) ⟨bad, inside, ?_⟩
  · rw [Function.comp_apply, Prediction.shape_withNumbers]
    cases prediction.score.isNotANumber with
    | true => exact .inr rfl
    | false => exact .inl ⟨prediction, rfl⟩
  · rw [Function.comp_apply, Prediction.shape_withNumbers, noNumber]
    rfl

theorem ofUntagged_withNumbers :
    ofUntagged (.members
      ((Members.final (membersWithNumbers numeralOrNull report.members)).without "status")) =
      .error nullScore := by
  have listed := asList_withNumbers some
  have refused : Members.RefusedSettled fields nullScore ("predictions",
      .list (report.predictions.map fun p => p.toDocument.withNumbers numeralOrNull)) :=
    ⟨.of "predictions" (asList Prediction.shape), by simp [fields, Field.of],
      by simp [Field.of, listed, Except.map]⟩
  have others : ∀ member ∈ membersWithNumbers numeralOrNull report.members,
      member.1 ≠ "predictions" →
        member.1 = "status" ∨ Members.FitsSettled fields false member := by
    rw [withNumbers_members]
    obtain ⟨objects, predictions, timestamp, requestTimestamp, annotatedImage⟩ := report
    cases requestTimestamp <;> cases annotatedImage <;>
      simp [fields, Members.FitsSettled, Members.Fitting, Field.of, Except.map, settle,
        Document.optional]
  have inside : ("predictions",
      Document.list (report.predictions.map fun p => p.toDocument.withNumbers numeralOrNull)) ∈
        membersWithNumbers numeralOrNull report.members := by
    rw [withNumbers_members]
    simp
  have checked := Members.check_final_without_error report.nodup_withNumbers inside (by simp) refused others
  simp only [ofUntagged, checked]
  rfl

end Success

/-- A success with a score that is no number is refused, by whoever reads its bytes. -/
theorem Response.parse?_toBytes_of_isNotANumber (report : Success)
    (scores : ∀ prediction ∈ report.predictions, ReadsBackOrNull prediction.score)
    (some : ∃ prediction ∈ report.predictions, prediction.score.isNotANumber = true) :
    parse? Response.shape (Response.success report).toBytes = .error (.invalidEnvelope nullScore) := by
  have integers : ∀ n, numeralOrNull (.integer n) = .number (.integer n) := fun _ => rfl
  have legible : Legible numeralOrNull depthLimit (Response.success report).toDocument :=
    legible_success integers fun prediction inside =>
      readAs_numeralOrNull (scores prediction inside)
  have tagged : Members.value? (membersWithNumbers numeralOrNull report.members) "status" =
      Option.some (.text "success") := by
    rw [Success.withNumbers_members]
    simp [Members.value?_cons]
  have refused : Response.shape
      ((Response.success report).toDocument.withNumbers numeralOrNull).settle = .error nullScore := by
    show Response.shape
      (Document.object (membersWithNumbers numeralOrNull report.members)).settle = _
    simp only [Response.shape, untag_object report.nodup_withNumbers tagged, bind, Except.bind, asVariant,
      List.lookup_cons, beq_self_eq_true, if_true, Success.ofUntagged_withNumbers some]
  unfold parse?
  rw [Response.toBytes, legible.spells_compact.read?]
  simp only [refused]

end FrameCourier.Wire
