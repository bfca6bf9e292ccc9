import FrameCourier.Proofs.Document.Complete
import FrameCourier.Proofs.Document.Shapes
import FrameCourier.Wire.Response

/-!
# Responses are read as they are sent

The bytes of a response are read as the response if its scores are read as they are written.  No
part of them that is cut short is a complete document.
-/

namespace FrameCourier.Wire

open Document

/-! ## Predictions -/

namespace Prediction

theorem readsBack_toInt (n : Int64) : Numeral.ReadsBack (.integer n.toInt) := by
  refine readsBack_integer n.le_toInt ?_
  have bound := n.toInt_lt
  simp only [Number.greatestWord64]
  omega

section

variable {read : Numeral → Document} (integers : ∀ n, read (.integer n) = .number (.integer n))

include integers

theorem legible_boxDocument (box : PixelBox) {depth : Nat} :
    Legible read (depth + 1) (boxDocument box) := by
  refine .list fun document inside => ?_
  obtain ⟨side, -, rfl⟩ := List.mem_map.mp inside
  refine .number ?_
  rw [integers]
  exact (readsBack_toInt side).readAs

theorem legible_toDocument {prediction : Prediction}
    (score : Numeral.ReadAs (.real prediction.score) (read (.real prediction.score))) {depth : Nat} :
    Legible read (depth + 2) prediction.toDocument := by
  refine .object fun member inside => ?_
  simp only [members, List.mem_cons, List.not_mem_nil, or_false] at inside
  rcases inside with rfl | rfl | rfl
  · exact .text _
  · exact .number score
  · exact legible_boxDocument integers prediction.box

end

theorem settle_boxDocument (box : PixelBox) : (boxDocument box).settle = boxDocument box := by
  simp [boxDocument, settle, settleItems]

theorem asBox_boxDocument (box : PixelBox) : asBox (boxDocument box) = .ok box := by
  simp [asBox, boxDocument, asFour, Elements.required, Elements.noMoreThan, bind, Except.bind,
    pure, Except.pure, Except.map]

theorem nodup_members (prediction : Prediction) : (Members.names prediction.members).Nodup := by
  simp [Members.names, members]

theorem fitting_members (prediction : Prediction) :
    ∀ member ∈ prediction.members, Members.FitsSettled fields false member := by
  simp [members, fields, Members.FitsSettled, Members.Fitting, Field.of, settle, Except.map,
    settle_boxDocument, asBox_boxDocument]

theorem shape_toDocument (prediction : Prediction) :
    shape prediction.toDocument.settle = .ok prediction := by
  have checked := Members.check_final prediction.fitting_members
  have found := Members.value?_final prediction.nodup_members
  show shape (.object prediction.members.final) = _
  simp only [shape, checked, Members.required, found]
  simp [members, Members.value?_cons, settle, settle_boxDocument, asBox_boxDocument, bind,
    Except.bind, pure, Except.pure]

end Prediction

/-! ## Successes -/

namespace Success

theorem nodup_members (report : Success) : (Members.names report.members).Nodup := by
  obtain ⟨objects, predictions, timestamp, requestTimestamp, annotatedImage⟩ := report
  cases requestTimestamp <;> cases annotatedImage <;> simp [Members.names, members]

theorem asList_predictions (predictions : List Prediction) :
    asList Prediction.shape (settle (.list (predictions.map Prediction.toDocument))) =
      .ok predictions := by
  rw [settle, settleItems_eq_map, List.map_map]
  exact asList_map fun prediction _ => prediction.shape_toDocument

theorem fitting_members (report : Success) :
    ∀ member ∈ report.members,
      member.1 = "status" ∨ Members.FitsSettled fields false member := by
  obtain ⟨objects, predictions, timestamp, requestTimestamp, annotatedImage⟩ := report
  have listed := asList_predictions predictions
  cases requestTimestamp <;> cases annotatedImage <;>
    simp [members, fields, Members.FitsSettled, Members.Fitting, Field.of, listed, Except.map] <;>
    simp [settle, Document.optional, Except.map]

theorem ofUntagged_members (report : Success) :
    ofUntagged (.members (report.members.final.without "status")) = .ok report := by
  have checked := Members.check_final_without report.fitting_members
  have found : ∀ name, name ≠ "status" →
      Members.value? (report.members.final.without "status") name =
        (Members.value? report.members name).map settle :=
    fun _ notTag => Members.value?_final_without report.nodup_members notTag
  have listed := asList_predictions report.predictions
  obtain ⟨objects, predictions, timestamp, requestTimestamp, annotatedImage⟩ := report
  simp only [ofUntagged, checked, Members.required, Members.optional, ne_eq, String.reduceEq,
    not_false_eq_true, found]
  cases requestTimestamp <;> cases annotatedImage <;>
    simp [members, Members.value?_cons, listed, bind, Except.bind] <;>
    simp [settle, Document.optional, Except.map, pure, Except.pure]

end Success

namespace Failure

theorem nodup_members (report : Failure) : (Members.names report.members).Nodup := by
  simp [Members.names, members]

theorem fitting_members (report : Failure) :
    ∀ member ∈ report.members,
      member.1 = "status" ∨ Members.FitsSettled fields false member := by
  simp [members, fields, Members.FitsSettled, Members.Fitting, Field.of, settle, Except.map]

theorem ofUntagged_members (report : Failure) :
    ofUntagged (.members (report.members.final.without "status")) = .ok report := by
  have checked := Members.check_final_without report.fitting_members
  have found : ∀ name, name ≠ "status" →
      Members.value? (report.members.final.without "status") name =
        (Members.value? report.members name).map settle :=
    fun _ notTag => Members.value?_final_without report.nodup_members notTag
  simp only [ofUntagged, checked, Members.required, ne_eq, String.reduceEq, not_false_eq_true,
    found]
  simp [members, Members.value?_cons, settle, bind, Except.bind, pure, Except.pure]

end Failure

/-! ## Responses -/

namespace Response

theorem shape_toDocument (response : Response) : shape response.toDocument.settle = .ok response := by
  cases response with
  | success report =>
    have tagged : Members.value? report.members "status" = some (.text "success") := by
      simp [Success.members, Members.value?_cons]
    simp only [shape, toDocument, untag_object report.nodup_members tagged, bind, Except.bind,
      asVariant, List.lookup_cons, beq_self_eq_true, if_true, report.ofUntagged_members]
    rfl
  | failure report =>
    have tagged : Members.value? report.members "status" = some (.text "error") := by
      simp [Failure.members, Members.value?_cons]
    simp [shape, toDocument, untag_object report.nodup_members tagged, bind, Except.bind, asVariant,
      List.lookup_cons, report.ofUntagged_members, pure, Except.pure]

/-- All scores of a response are read as they are written. -/
def ScoresReadBack : Response → Prop
  | .success report =>
    ∀ prediction ∈ report.predictions, Numeral.ReadsBack (.real prediction.score)
  | .failure _ => True

theorem legible_success {read : Numeral → Document}
    (integers : ∀ n, read (.integer n) = .number (.integer n)) {report : Success}
    (scores : ∀ prediction ∈ report.predictions,
      Numeral.ReadAs (.real prediction.score) (read (.real prediction.score))) :
    Legible read depthLimit (Response.success report).toDocument := by
  have countReads : Numeral.ReadsBack (.integer report.objects.toNat) := by
    have bound := report.objects.toNat_lt
    exact readsBack_natCast (Nat.le_of_lt_succ bound)
  refine .object fun member inside => ?_
  simp only [Success.members, List.mem_append, List.mem_cons, List.not_mem_nil, or_false,
    Option.mem_toList, Option.map_eq_some_iff] at inside
  rcases inside with ((rfl | rfl | rfl | rfl) | ⟨time, -, rfl⟩) | ⟨image, -, rfl⟩
  · exact .text _
  · refine .number ?_
    rw [integers]
    exact countReads.readAs
  · refine .list fun document listed => ?_
    obtain ⟨prediction, member, rfl⟩ := List.mem_map.mp listed
    exact Prediction.legible_toDocument integers (scores prediction member)
  · exact .text _
  · exact .text _
  · exact .text _

theorem readable_toDocument {response : Response} (scores : response.ScoresReadBack) :
    Readable depthLimit response.toDocument := by
  cases response with
  | success report =>
    exact legible_success (fun _ => rfl) fun prediction inside => (scores prediction inside).readAs
  | failure report =>
    refine .object fun member inside => ?_
    simp only [Failure.members, List.mem_cons, List.not_mem_nil, or_false] at inside
    rcases inside with rfl | rfl | rfl <;> exact .text _

theorem exists_toBytes_eq (response : Response) : ∃ s, response.toBytes = Ascii.openBrace :: s := by
  cases response <;> exact ⟨_, rfl⟩

/-- Whatever follows the bytes of a response, its document is read from them. -/
theorem value_toBytes {response : Response} (scores : response.ScoresReadBack) (rest : Bytes) :
    value depthLimit (response.toBytes ++ rest) = .ok (response.toDocument, rest) := by
  refine value_compact (readable_toDocument scores) ?_
  cases response <;> trivial

/-- The bytes of a response are read as the response. -/
theorem parse?_toBytes {response : Response} (scores : response.ScoresReadBack) :
    parse? shape response.toBytes = .ok (some response) := by
  unfold parse?
  rw [toBytes, read?_compact (readable_toDocument scores)]
  simp only [response.shape_toDocument]

/-- Bytes of a response that are cut short are no complete document. -/
theorem parse?_of_append_eq_toBytes {response : Response} (scores : response.ScoresReadBack)
    {before more : Bytes} (parts : before ++ more = response.toBytes) (unfinished : more ≠ []) :
    parse? shape before = .ok none := by
  obtain ⟨s, starts⟩ := response.exists_toBytes_eq
  have whole := value_toBytes scores []
  rw [List.append_nil, starts] at whole
  rw [starts] at parts
  unfold parse?
  rw [read?_eq_none_of_append_eq whole parts unfinished]

end Response

end FrameCourier.Wire
