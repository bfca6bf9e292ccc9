import FrameCourier.Proofs.Delivery
import FrameCourier.Proofs.Wire.NullScores

/-!
# Which responses a client accepts

The range to which a confidence is cut lets pass what is no number, and the wire has no numeral
for it.  So a client accepts the response of a detection exactly when every confidence is a
number; of all others, infinities and what is out of range among them, there is a score.  If the
drawing of the detections leaves the image, there is no response to accept.
-/

namespace FrameCourier.Service

open Wire Picture

/-- Whether every confidence is a number. -/
def allNumbers (detections : List Detection) : Bool :=
  detections.all fun detection => !detection.confidence.isNotANumber

/-- The score of every confidence is read as it is written, unless it is no number. -/
theorem readsBackOrNull_hundredths (confidence : Number.Single) :
    ReadsBackOrNull (hundredths confidence) := by
  intro number
  cases noNumber : confidence.isNotANumber with
  | true =>
    rw [isNotANumber_hundredths noNumber] at number
    cases number
  | false => exact Document.Numeral.readsBack_of_numeral (isScore_hundredths noNumber).1

section

variable {codec : ImageCodec} {settings : DetectionSettings} {now : String} {image : Bytes}
  {requestTimestamp : Option String} {detections : List Detection} {response : Response}
  (responds : respond codec settings now image requestTimestamp (.ok detections) = some response)

include responds

theorem judge_of_allNumbers (numbers : allNumbers detections = true)
    (countable : detections.length < 2 ^ 64) :
    Client.judge response.toBytes = some (.ok response) := by
  have reportable : ∀ found, (.ok detections : Except DetectorFault _) = .ok found →
      Reportable found := by
    intro found equal
    cases equal
    exact ⟨countable, by simpa [allNumbers] using numbers⟩
  have made := isMade_of_respond responds reportable
  exact Client.judge_toBytes made.scoresReadBack (Client.inconsistency?_of_isMade made)

/-- One confidence that is no number makes the whole response unacceptable. -/
theorem judge_of_not_allNumbers (numbers : allNumbers detections = false) :
    Client.judge response.toBytes = some (.error (.invalidResponse (.envelope nullScore))) := by
  have scores : ∀ prediction ∈ detections.map Detection.toPrediction,
      ReadsBackOrNull prediction.score := by
    intro prediction inside
    obtain ⟨detection, -, rfl⟩ := List.mem_map.mp inside
    exact readsBackOrNull_hundredths detection.confidence
  have unsaid : ∃ prediction ∈ detections.map Detection.toPrediction,
      prediction.score.isNotANumber = true := by
    simp only [allNumbers, List.all_eq_false, Bool.not_eq_true', Bool.not_eq_false] at numbers
    obtain ⟨detection, inside, noNumber⟩ := numbers
    exact ⟨detection.toPrediction, List.mem_map_of_mem inside, isNotANumber_hundredths noNumber⟩
  rw [respond_ok] at responds
  split at responds
  · cases responds
  cases responds
  have refused := Response.parse?_toBytes_of_isNotANumber
    ⟨UInt64.ofNat detections.length, detections.map Detection.toPrediction, now, requestTimestamp,
      (annotated? codec settings image detections).map Base64.encode⟩ scores unsaid
  simp only [Client.judge, refused]

end

/-- A detection has a response if its drawing stays on the image, and the response is accepted if
every confidence is a number, whatever else its bits are, and refused otherwise.  If the drawing
leaves the image, there is no response at all. -/
theorem judge_handle (codec : ImageCodec) (settings : DetectionSettings) (detector : Detector)
    (now : String) {request : InboundRequest} {image : Bytes} {requestTimestamp : Option String}
    {detections : List Detection} (planned : plan request = .detect image requestTimestamp)
    (answered : detector image = .ok detections) (countable : detections.length < 2 ^ 64) :
    (crashes codec settings image (.ok detections) = true →
      (handle codec settings detector now request).response = none) ∧
    (crashes codec settings image (.ok detections) = false →
      ∃ response, (handle codec settings detector now request).response = some response ∧
        Client.judge response.toBytes =
          if allNumbers detections then some (.ok response)
          else some (.error (.invalidResponse (.envelope nullScore)))) := by
  have handled : (handle codec settings detector now request).response =
      respond codec settings now image requestTimestamp (.ok detections) := by
    rw [handle_of_detect planned, answered]
  rw [handled, ← respond_eq_none_iff codec settings now image requestTimestamp]
  refine ⟨id, fun drawn => ?_⟩
  have responds : respond codec settings now image requestTimestamp (.ok detections) ≠ none := by
    rw [ne_eq, respond_eq_none_iff, drawn]
    exact Bool.false_ne_true
  obtain ⟨response, made⟩ := Option.ne_none_iff_exists'.mp responds
  refine ⟨response, made, ?_⟩
  split
  · next numbers => exact judge_of_allNumbers made numbers countable
  · next unsaid => exact judge_of_not_allNumbers made (Bool.eq_false_iff.mpr unsaid)

/-- A detector that finds one object of the given confidence on every image. -/
def confident (confidence : Number.Single) : Detector := fun _ =>
  .ok [⟨"cat", confidence, ⟨.zero _ false, .zero _ false, .ofInt _ 2, .ofInt _ 3⟩, none⟩]

/-- A confidence of infinity is accepted. -/
theorem judge_handle_infinite :
    ∃ response, (handle Delivery.oneByteCodec .default (confident (.infinite _ false)) "then"
        (.raw [0xFF])).response = some response ∧
      Client.judge response.toBytes = some (.ok response) := by
  have planned : plan (.raw [0xFF]) = .detect [0xFF] none := rfl
  obtain ⟨-, answers⟩ := judge_handle Delivery.oneByteCodec .default
    (confident (.infinite _ false)) "then" planned rfl (by decide)
  obtain ⟨response, made, judged⟩ := answers (by decide +kernel)
  exact ⟨response, made, judged.trans (if_pos (by decide +kernel))⟩

/-- A confidence that is no number ends as a refusal of the client. -/
theorem judge_handle_notANumber :
    ∃ response, (handle Delivery.oneByteCodec .default (confident (.notANumber _)) "then"
        (.raw [0xFF])).response = some response ∧
      Client.judge response.toBytes =
        some (.error (.invalidResponse (.envelope nullScore))) := by
  have drawn : respond Delivery.oneByteCodec .default "then" [0xFF] none
      (confident (.notANumber _) [0xFF]) ≠ none := by
    rw [ne_eq, respond_eq_none_iff]
    decide +kernel
  obtain ⟨response, responds⟩ := Option.ne_none_iff_exists'.mp drawn
  exact ⟨response, responds, judge_of_not_allNumbers responds (by decide +kernel)⟩

end FrameCourier.Service
