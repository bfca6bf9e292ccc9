import FrameCourier.Delivery
import FrameCourier.Proofs.Base64
import FrameCourier.Proofs.Client
import FrameCourier.Proofs.Picture.Cutting
import FrameCourier.Proofs.Service.Sessions
import FrameCourier.Proofs.Wire.Scores

/-!
# A frame is delivered

Whatever the detector answers on the image of a frame is what the frame's report says, however
the bytes of the request and of the response are cut.  The detector is called once.  Only if the
drawing of its answer leaves the image, the service ends the connection without a response, and the
client tells so.
-/

namespace FrameCourier

/-! ## The response of the service -/

namespace Service

open Wire Picture

/-- Detections that can be reported: as many as a count of 64 bits tells, with numbers as
confidences. -/
structure Reportable (detections : List Detection) : Prop where
  countable : detections.length < 2 ^ 64
  numbers : ∀ detection ∈ detections, detection.confidence.isNotANumber = false

/-- Whether the drawing of a detector's answer leaves the image. -/
def crashes (codec : ImageCodec) (settings : DetectionSettings) (image : Bytes)
    (answer : Except DetectorFault (List Detection)) : Bool :=
  match answer with
  | .error _ => false
  | .ok detections =>
    settings.annotate && (annotate? codec image detections settings.jpegQuality).isNone

/-- The image with the detections drawn on it, if that is wanted and possible. -/
def annotated? (codec : ImageCodec) (settings : DetectionSettings) (image : Bytes)
    (detections : List Detection) : Option Bytes :=
  if settings.annotate then
    (annotate? codec image detections settings.jpegQuality).bind Except.toOption
  else none

/-- Up to extents of 16777219 no drawing leaves the image. -/
theorem crashes_eq_false {codec : ImageCodec} {image : Bytes}
    (small : ∀ canvas, codec.decode image = .ok canvas →
      canvas.width ≤ 16777219 ∧ canvas.height ≤ 16777219)
    (settings : DetectionSettings) (answer : Except DetectorFault (List Detection)) :
    crashes codec settings image answer = false := by
  cases answer with
  | error fault => rfl
  | ok detections =>
    have drawn : annotate? codec image detections settings.jpegQuality ≠ none := by
      cases decoded : codec.decode image with
      | error reason => simp [annotate?, decoded]
      | ok canvas =>
        obtain ⟨width, height⟩ := small canvas decoded
        obtain ⟨after, taken⟩ := exists_drawAll?_of_le width height detections
        rw [ne_eq, annotate?_eq_none_iff decoded, taken]
        exact Option.some_ne_none after
    have some := Option.isNone_eq_false_iff.mpr (Option.isSome_iff_ne_none.mpr drawn)
    rw [crashes, some, Bool.and_false]

section

variable (codec : ImageCodec) (settings : DetectionSettings) (now : String) (image : Bytes)
  (requestTimestamp : Option String)

/-- The response of a detector that answered. -/
theorem respond_ok (detections : List Detection) :
    respond codec settings now image requestTimestamp (.ok detections) =
      if crashes codec settings image (.ok detections) then none
      else some (.success ⟨UInt64.ofNat detections.length, detections.map Detection.toPrediction,
        now, requestTimestamp, (annotated? codec settings image detections).map Base64.encode⟩) := by
  unfold respond crashes annotated?
  by_cases wanted : settings.annotate = true
  · simp only [wanted, if_true]
    cases annotate? codec image detections settings.jpegQuality with
    | none => rfl
    | some result =>
      cases result with
      | error fault => simp [Response.ofPredictions, Except.toOption]
      | ok bytes => simp [Response.ofPredictions, Response.withAnnotatedImage, Except.toOption]
  · simp [wanted, Response.ofPredictions]

/-- There is no response exactly if the drawing leaves the image. -/
theorem respond_eq_none_iff (answer : Except DetectorFault (List Detection)) :
    respond codec settings now image requestTimestamp answer = none ↔
      crashes codec settings image answer = true := by
  cases answer with
  | error fault => simp [respond, crashes]
  | ok detections =>
    rw [respond_ok]
    split
    · next crashed => simp [crashed]
    · next drawn => simp [drawn]

end

section

variable {codec : ImageCodec} {settings : DetectionSettings} {now : String} {image : Bytes}
  {requestTimestamp : Option String} {answer : Except DetectorFault (List Detection)}
  {response : Response}
  (responds : respond codec settings now image requestTimestamp answer = some response)

include responds

/-- What can be reported makes a response with the right count and scores in hundredths. -/
theorem isMade_of_respond (reportable : ∀ detections, answer = .ok detections → Reportable detections) :
    response.IsMade := by
  cases answer with
  | error fault =>
    cases responds
    trivial
  | ok detections =>
    have detectionsReportable := reportable detections rfl
    rw [respond_ok] at responds
    split at responds
    · cases responds
    cases responds
    constructor
    · rw [UInt64.toNat_ofNat', List.length_map]
      exact Nat.mod_eq_of_lt detectionsReportable.countable
    · intro prediction inside
      obtain ⟨detection, member, rfl⟩ := List.mem_map.mp inside
      exact isHundredth_hundredths (detectionsReportable.numbers detection member)

end

end Service

/-! ## The way of a frame -/

namespace Delivery

open Service Wire Picture

/-- The service as a client has it for a peer. -/
def servedBy (handle : InboundRequest → Handled) (cutRequest cutResponse : Bytes → List Bytes) :
    Client.Peer := fun bytes =>
  .ok ((cutResponse (served handle (cutRequest bytes)).1.output).map .chunk ++ [.ended])

/-- A frame is delivered as the service's client asks for it. -/
theorem detect_eq_detectFrame (handle : InboundRequest → Handled)
    (cutRequest cutResponse : Bytes → List Bytes) (stamp : String) (now : Time.Instant)
    (frame : Frame) :
    (detect handle cutRequest cutResponse stamp now frame).outcome =
      Client.detectFrame (servedBy handle cutRequest cutResponse) stamp now frame := by
  unfold detect Client.detectFrame
  cases Client.frameRequest frame stamp with
  | error error => rfl
  | ok request => rfl

/-- The report of a detector's answer on an image. -/
def reportOf (codec : ImageCodec) (settings : DetectionSettings) (image : Bytes)
    (answer : Except DetectorFault (List Detection)) (respondedAt : Time.Instant) : Report :=
  match answer with
  | .ok detections =>
    ⟨.success, UInt64.ofNat detections.length, detections.map Detection.toPrediction,
      annotated? codec settings image detections, respondedAt, none⟩
  | .error fault => ⟨.error, 0, [], none, respondedAt, some fault.message⟩

/-- The report of a response says what the detector answered. -/
theorem ofResponse_of_respond {codec : ImageCodec} {settings : DetectionSettings} {stamp : String}
    {image : Bytes} {requestTimestamp : Option String}
    {answer : Except DetectorFault (List Detection)} {response : Response}
    (responds : respond codec settings stamp image requestTimestamp answer = some response)
    (now : Time.Instant) :
    Report.ofResponse response now =
      .ok (reportOf codec settings image answer (Report.responseTime stamp now)) := by
  cases answer with
  | error fault =>
    cases responds
    rfl
  | ok detections =>
    rw [respond_ok] at responds
    split at responds
    · cases responds
    cases responds
    cases drawn : annotated? codec settings image detections with
    | none => simp [Report.ofResponse, reportOf, drawn, Response.timestamp, bind, Except.bind, pure,
        Except.pure]
    | some bytes =>
      have decoded : decodePayload (Base64.encode bytes) = .ok bytes := by
        simp [decodePayload, Base64.decode_encode, Except.mapError]
      simp [Report.ofResponse, reportOf, drawn, decoded, Response.timestamp, bind, Except.bind,
        pure, Except.pure, Except.map]

/-- The request for a frame carries its image. -/
theorem plan_frameRequest {frame : Frame} {image : Bytes} (decodes : frame.image = .ok image)
    (stamp : String) :
    ∃ request, Client.frameRequest frame stamp = .ok request ∧
      plan (.envelope request) = .detect image (some stamp) := by
  refine ⟨(ImageRequest.ofImage image frame.format stamp).withOrigin frame.index frame.sourceName,
    ?_, ?_⟩
  · simp [Client.frameRequest, decodes]
  · simp [plan, ImageRequest.image, ImageRequest.withOrigin, ImageRequest.ofImage, decodePayload,
      Base64.decode_encode, Except.mapError]

/-- A client that is sent nothing tells that the connection has ended. -/
theorem report_nothing {pieces : List Bytes} (nothing : pieces.flatten = []) (now : Time.Instant) :
    Client.report (pieces.map .chunk ++ [.ended]) now = .error (.connectionEnded 0) := by
  have undecided : ∀ n, Client.judge ([] ++ (pieces.take n).flatten) = none := by
    intro n
    have empty : (pieces.take n).flatten = [] := List.flatten_eq_nil_iff.mpr fun piece member =>
      List.flatten_eq_nil_iff.mp nothing piece (List.mem_of_mem_take member)
    rw [empty]
    exact Client.judge_eq_none_iff.mpr rfl
  simp only [Client.report, Client.receive_of_undecided undecided, nothing, Client.receive]
  rfl

/-- A client that is sent a response has its report, however the bytes are cut. -/
theorem report_of_respond {codec : ImageCodec} {settings : DetectionSettings} {stamp : String}
    {image : Bytes} {requestTimestamp : Option String}
    {answer : Except DetectorFault (List Detection)} {response : Response}
    (responds : respond codec settings stamp image requestTimestamp answer = some response)
    (reportable : ∀ detections, answer = .ok detections → Reportable detections)
    {pieces : List Bytes} (cut : pieces.flatten = response.toBytes) (now : Time.Instant) :
    Client.report (pieces.map .chunk ++ [.ended]) now =
      .ok (reportOf codec settings image answer (Report.responseTime stamp now)) := by
  have made := isMade_of_respond responds reportable
  have received := Client.receive_response made.scoresReadBack (Client.inconsistency?_of_isMade made)
    ((List.nil_append _).trans cut) (cut ▸ response.toBytes_ne_nil) [.ended]
  simp only [Client.report, received, ofResponse_of_respond responds]
  rfl

section

variable (codec : ImageCodec) (settings : DetectionSettings) (detector : Detector)
  (serviceStamp stamp : String) (now : Time.Instant) {cutRequest cutResponse : Bytes → List Bytes}
  (cutsRequest : ∀ bytes, (cutRequest bytes).flatten = bytes) {frame : Frame} {image : Bytes}
  (decodes : frame.image = .ok image)

include cutsRequest decodes

/-- The client of a frame reads what the service responds to its image. -/
theorem detect_eq_report :
    detect (handle codec settings detector serviceStamp) cutRequest cutResponse stamp now frame =
      ⟨Client.report ((cutResponse (Handled.output ⟨[image], respond codec settings serviceStamp image
        (some stamp) (detector image)⟩)).map .chunk ++ [.ended]) now, [image]⟩ := by
  obtain ⟨request, requested, planned⟩ := plan_frameRequest decodes stamp
  obtain ⟨output, calls⟩ := Session.serve_request (handle codec settings detector serviceStamp)
    request 1 (cutsRequest request.toBytes)
  rw [handle_of_detect planned] at output calls
  simp only [detect, requested, served, output, calls]

variable (cutsResponse : ∀ bytes, (cutResponse bytes).flatten = bytes)

include cutsResponse

theorem detect_of_crashes (crashed : crashes codec settings image (detector image) = true) :
    detect (handle codec settings detector serviceStamp) cutRequest cutResponse stamp now frame =
      ⟨.error (.connectionEnded 0), [image]⟩ := by
  have silent := (respond_eq_none_iff codec settings serviceStamp image (some stamp)
    (detector image)).mpr crashed
  rw [detect_eq_report codec settings detector serviceStamp stamp now cutsRequest decodes, silent]
  simp only [Handled.output, report_nothing (cutsResponse []) now]

/-- A frame whose payload decodes has its detector called once, on its image, and its report says
what the detector answered, however the bytes of request and response are cut; but if the drawing of
the answer leaves the image, the client tells that the connection has ended after no byte at all.
Up to extents of 16777219 no drawing does. -/
theorem detect_eq_reportOf
    (reportable : ∀ detections, detector image = .ok detections → Reportable detections) :
    let delivered :=
      detect (handle codec settings detector serviceStamp) cutRequest cutResponse stamp now frame
    delivered.calls = [image] ∧
      delivered.outcome =
        (if crashes codec settings image (detector image) then .error (.connectionEnded 0)
        else .ok (reportOf codec settings image (detector image)
          (Report.responseTime serviceStamp now))) ∧
      ((∀ canvas, codec.decode image = .ok canvas →
          canvas.width ≤ 16777219 ∧ canvas.height ≤ 16777219) →
        crashes codec settings image (detector image) = false) := by
  intro delivered
  have read : delivered = _ :=
    detect_eq_report codec settings detector serviceStamp stamp now cutsRequest decodes
  refine ⟨congrArg Delivered.calls read, ?_,
    fun small => crashes_eq_false small settings (detector image)⟩
  split
  · next crashed =>
    exact congrArg Delivered.outcome (detect_of_crashes codec settings detector serviceStamp stamp
      now cutsRequest decodes cutsResponse crashed)
  · next drawn =>
    rw [← respond_eq_none_iff codec settings serviceStamp image (some stamp)] at drawn
    obtain ⟨response, responds⟩ := Option.ne_none_iff_exists'.mp drawn
    rw [read, responds]
    exact report_of_respond responds reportable (cutsResponse _) now

end

/-- The start of 1970. -/
def epoch : Time.Instant := ⟨0, 0, by decide +kernel⟩

/-- A frame of three bytes. -/
def smallFrame : Frame := .ofImage 1 [0xFF, 0xD8, 0xFF] "jpg" epoch

/-- A detector that finds one object, with a confidence of one half, on every image. -/
def halfSure : Detector := fun _ =>
  .ok [⟨"cat", .ofRat _ false (1 / 2), ⟨.zero _ false, .zero _ true, .ofInt _ 2, .ofInt _ 3⟩, none⟩]

/-- A codec that reads pixmaps and compresses every canvas to one byte. -/
def oneByteCodec : ImageCodec := .pixmaps fun quality _ => [quality]

/-- The small frame is delivered when every byte of the request is a piece of its own and the
response is cut behind its seventh byte. -/
theorem detect_smallFrame_eq_reportOf :
    let delivered := detect (handle oneByteCodec .default halfSure "then")
      (fun bytes => bytes.map fun b => [b]) (fun bytes => [bytes.take 7, bytes.drop 7]) "now" epoch
      smallFrame
    delivered.calls = [[0xFF, 0xD8, 0xFF]] ∧
      delivered.outcome = .ok (reportOf oneByteCodec .default [0xFF, 0xD8, 0xFF]
        (halfSure [0xFF, 0xD8, 0xFF]) (Report.responseTime "then" epoch)) := by
  have pieces : ∀ bytes : Bytes, (bytes.map fun b => [b]).flatten = bytes := by
    intro bytes
    induction bytes with
    | nil => rfl
    | cons b bytes ih => simpa using ih
  have halves : ∀ bytes : Bytes, [bytes.take 7, bytes.drop 7].flatten = bytes := by
    simp
  have found : ∀ detections, halfSure [0xFF, 0xD8, 0xFF] = .ok detections → Reportable detections := by
    intro detections equal
    cases equal
    refine ⟨by decide, fun detection inside => ?_⟩
    rw [List.mem_singleton.mp inside]
    decide +kernel
  have drawn : crashes oneByteCodec .default [0xFF, 0xD8, 0xFF] (halfSure [0xFF, 0xD8, 0xFF]) =
      false := by
    decide +kernel
  have decodes : smallFrame.image = .ok [0xFF, 0xD8, 0xFF] := rfl
  obtain ⟨calls, outcome, -⟩ := detect_eq_reportOf oneByteCodec .default halfSure "then" "now" epoch
    pieces decodes halves found
  exact ⟨calls, outcome.trans (if_neg (drawn ▸ Bool.false_ne_true))⟩

/-- Of a row whose last column is rounded up and a box behind it nothing is reported, although the
detector has found the box. -/
theorem detect_longerRow_eq_connectionEnded :
    let delivered := detect (handle (.always longerRow) .default (fun _ => .ok [boxed boxBehind])
      "then") (fun bytes => [bytes]) (fun bytes => [bytes]) "now" epoch smallFrame
    delivered.calls = [[0xFF, 0xD8, 0xFF]] ∧ delivered.outcome = .error (.connectionEnded 0) := by
  intro delivered
  have whole : ∀ bytes : Bytes, [bytes].flatten = bytes := fun bytes => by simp
  have decodes : smallFrame.image = .ok [0xFF, 0xD8, 0xFF] := rfl
  have crashed : crashes (.always longerRow) .default [0xFF, 0xD8, 0xFF]
      (.ok [boxed boxBehind]) = true := by
    rw [crashes, annotate?_longerRow]
    rfl
  have ends : delivered = _ := detect_of_crashes (.always longerRow) .default
    (fun _ => .ok [boxed boxBehind]) "then" "now" epoch whole decodes whole crashed
  rw [ends]
  exact ⟨rfl, rfl⟩

end Delivery

end FrameCourier
