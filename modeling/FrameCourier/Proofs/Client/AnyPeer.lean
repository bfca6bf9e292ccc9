import FrameCourier.Proofs.Client
import FrameCourier.Proofs.Number.Exact

/-!
# Clients of any peer

A client takes nothing on trust.  Whatever bytes arrive, in whatever pieces, it decides with the
first piece that makes them one complete document, and its report is well formed: the objects are
counted right, the scores lie between 0 and 1, and there is a message exactly if there is an error.
A complete document that gives no such report is refused.
-/

namespace FrameCourier

open Wire

/-! ## What is well formed -/

/-- A score is a number between 0 and 1. -/
def IsUnitNumber (score : Number.Double) : Prop :=
  score.isFinite = true ∧ 0 ≤ score.value ∧ score.value ≤ 1

/-- A response counts its predictions right, and their scores lie between 0 and 1. -/
def Wire.Response.IsConsistent : Response → Prop
  | .success report =>
    report.objects.toNat = report.predictions.length ∧
      ∀ prediction ∈ report.predictions, IsUnitNumber prediction.score
  | .failure _ => True

/-- The annotated image of a response, if it has one, is in base64. -/
def Wire.Response.ImageDecodes : Response → Prop
  | .success report => ∀ image ∈ report.annotatedImage, ∃ bytes, Base64.decode image = .ok bytes
  | .failure _ => True

/-- A report as it is relied upon later. -/
structure Report.IsWellFormed (report : Report) : Prop where
  success : report.status = .success →
    report.objectCount.toNat = report.predictions.length ∧
      (∀ prediction ∈ report.predictions, IsUnitNumber prediction.score) ∧
      report.errorMessage = none
  error : report.status = .error →
    report.objectCount = 0 ∧ report.predictions = [] ∧ report.annotated = none ∧
      report.errorMessage.isSome = true

/-! ## Scores -/

namespace Client

open Number

/-- The code of 1 and the one after it. -/
theorem magnitude_one : Format.double.magnitude (Binary.ofInt Format.double 1).code = 1 ∧
    1 < Format.double.magnitude ((Binary.ofInt Format.double 1).code + 1) := by
  decide +kernel

theorem key_one : (Binary.ofInt Format.double 1).key = (Binary.ofInt Format.double 1).code := by
  decide +kernel

/-- A number of 64 bits is compared by its key. -/
theorem isUnitScore_iff_key (score : Double) :
    isUnitScore score = true ↔
      score.isNotANumber = false ∧ 0 ≤ score.key ∧
        score.key ≤ (Binary.ofInt Format.double 1).code := by
  have zeroNumber : (Binary.zero Format.double false).isNotANumber = false := by decide +kernel
  have oneNumber : (Binary.ofInt Format.double 1).isNotANumber = false := by decide +kernel
  have zeroKey : (Binary.zero Format.double false).key = 0 := by decide +kernel
  simp [isUnitScore, Binary.le, zeroNumber, oneNumber, zeroKey, key_one]
  tauto

/-- A key from 0 to that of 1 is the key of a number from 0 to 1. -/
theorem isUnitNumber_of_key {score : Double} (low : 0 ≤ score.key)
    (high : score.key ≤ (Binary.ofInt Format.double 1).code) : IsUnitNumber score := by
  have finite : (Binary.ofInt Format.double 1).code < Format.double.infinityCode := by
    decide +kernel
  have within : score.IsWithin (Binary.ofInt Format.double 1).code := by
    cases negative : score.negative with
    | true =>
      rw [Binary.key, if_pos negative] at low
      exact ⟨by omega, fun _ => by omega⟩
    | false =>
      rw [Binary.key, negative] at high
      exact ⟨by simpa using high, fun isNegative => absurd isNegative (by simp [negative])⟩
  have top := within.value_le finite
  rw [magnitude_one.1] at top
  exact ⟨within.isFinite_eq finite, within.value_nonneg finite, top⟩

/-- A number from 0 to 1 has such a key: a greater code would be a greater number, and of the
negative ones only zero is not below 0. -/
theorem key_of_isUnitNumber {score : Double} (unit : IsUnitNumber score) :
    0 ≤ score.key ∧ score.key ≤ (Binary.ofInt Format.double 1).code := by
  obtain ⟨isFinite, low, high⟩ := unit
  have bound : score.code < Format.double.infinityCode := by simpa [Binary.isFinite] using isFinite
  unfold Binary.value at low high
  rw [if_neg (by omega)] at low high
  cases negative : score.negative with
  | true =>
    rw [if_pos negative] at low
    have isZero : score.code = 0 := by
      by_contra some
      have positive := Format.magnitude_pos (F := Format.double) (Nat.pos_of_ne_zero some)
      linarith
    simp [Binary.key, negative, isZero]
  | false =>
    rw [negative] at high
    have below : score.code ≤ (Binary.ofInt Format.double 1).code := by
      by_contra above
      have greater := Format.magnitude_mono (F := Format.double) (Nat.lt_of_not_le above)
      have beyond := magnitude_one.2.trans_le greater
      simp only [Bool.false_eq_true, if_false] at high
      linarith
    simp [Binary.key, negative, below]

/-- The client compares keys; they are in range exactly if the number is. -/
theorem isUnitScore_iff (score : Double) : isUnitScore score = true ↔ IsUnitNumber score := by
  rw [isUnitScore_iff_key]
  constructor
  · rintro ⟨-, low, high⟩
    exact isUnitNumber_of_key low high
  · intro unit
    have number : score.isNotANumber = false := by
      have finite := unit.1
      simp only [Binary.isFinite, decide_eq_true_eq] at finite
      simp only [Binary.isNotANumber, decide_eq_false_iff_not]
      omega
    exact ⟨number, key_of_isUnitNumber unit⟩

open Wire

theorem inconsistency?_eq_none_iff (response : Response) :
    inconsistency? response = none ↔ response.IsConsistent := by
  cases response with
  | failure report => simp [inconsistency?, Response.IsConsistent]
  | success report =>
    by_cases counted : report.objects.toNat = report.predictions.length
    · simp [inconsistency?, Response.IsConsistent, counted, isUnitScore_iff]
    · simp [inconsistency?, Response.IsConsistent, counted]

/-! ## What becomes of a complete document -/

/-- A complete document is a consistent response, or it is refused. -/
theorem verdict_cases (document : Document) :
    (∃ response, Response.shape document.settle = .ok response ∧ response.IsConsistent ∧
      verdict document = .ok response) ∨
    ((∀ response, Response.shape document.settle = .ok response → ¬ response.IsConsistent) ∧
      ∃ fault, verdict document = .error (.invalidResponse fault)) := by
  unfold verdict
  cases shaped : Response.shape document.settle with
  | error mismatch => exact .inr ⟨fun response wanted => (by cases wanted), _, rfl⟩
  | ok response =>
    cases wrong : inconsistency? response with
    | none => exact .inl ⟨response, rfl, (inconsistency?_eq_none_iff response).mp wrong, by simp [wrong]⟩
    | some fault =>
      refine .inr ⟨?_, fault, by simp [wrong]⟩
      rintro other ⟨⟩ consistent
      rw [(inconsistency?_eq_none_iff response).mpr consistent] at wrong
      cases wrong

/-- A response that a client accepts is consistent. -/
theorem isConsistent_of_judge {buffer : Bytes} {response : Response}
    (accepted : judge buffer = some (.ok response)) : response.IsConsistent := by
  rw [judge_eq] at accepted
  obtain ⟨document, -, decided⟩ := Option.map_eq_some_iff.mp accepted
  rcases verdict_cases document with ⟨other, -, consistent, ok⟩ | ⟨-, fault, refused⟩
  · rw [ok] at decided
    cases decided
    exact consistent
  · rw [refused] at decided
    cases decided

theorem isConsistent_of_receive {buffer : Bytes} {arrivals : List Arrival} {response : Response}
    (received : receive buffer arrivals = .ok response) : response.IsConsistent := by
  induction arrivals generalizing buffer with
  | nil => cases received
  | cons arrival rest ih =>
    cases arrival with
    | ended => cases received
    | failed fault => cases received
    | chunk bytes =>
      rw [receive] at received
      cases known : judge (buffer ++ bytes) with
      | none =>
        rw [known] at received
        exact ih received
      | some outcome =>
        simp only [known] at received
        rw [received] at known
        exact isConsistent_of_judge known

/-! ## Reports -/

/-- The report of a consistent response whose image decodes is well formed. -/
theorem exists_ofResponse {response : Response} (consistent : response.IsConsistent)
    (decodes : response.ImageDecodes) (now : Time.Instant) :
    ∃ report, Report.ofResponse response now = .ok report ∧ report.IsWellFormed := by
  cases response with
  | failure failure =>
    refine ⟨⟨.error, 0, [], none, Report.responseTime failure.timestamp now, some failure.message⟩,
      rfl, fun success => ?_, fun _ => ⟨rfl, rfl, rfl, rfl⟩⟩
    cases success
  | success success =>
    have wellFormed : ∀ annotated, Report.IsWellFormed ⟨.success, success.objects,
        success.predictions, annotated, Report.responseTime success.timestamp now, none⟩ :=
      fun _ => ⟨fun _ => ⟨consistent.1, consistent.2, rfl⟩, fun error => by cases error⟩
    cases image : success.annotatedImage with
    | none =>
      refine ⟨_, ?_, wellFormed none⟩
      simp only [Report.ofResponse, image]
      rfl
    | some text =>
      obtain ⟨bytes, decoded⟩ := decodes text image
      refine ⟨_, ?_, wellFormed (some bytes)⟩
      simp only [Report.ofResponse, image, decodePayload, decoded]
      rfl

/-- A response whose image does not decode has no report. -/
theorem exists_invalidPayload {response : Response} (undecodable : ¬ response.ImageDecodes)
    (now : Time.Instant) :
    ∃ fault, Report.ofResponse response now = .error (.invalidPayload fault) := by
  cases response with
  | failure failure => exact absurd trivial undecodable
  | success success =>
    simp only [Response.ImageDecodes, not_forall] at undecodable
    obtain ⟨text, image, undecodable⟩ := undecodable
    cases decoded : Base64.decode text with
    | ok bytes => exact absurd ⟨bytes, decoded⟩ undecodable
    | error fault =>
      refine ⟨fault, ?_⟩
      simp [Report.ofResponse, Option.mem_def.mp image, decodePayload, decoded, Except.mapError]
      rfl

theorem report_of_receive_eq_ok {arrivals : List Arrival} {response : Response}
    (received : receive [] arrivals = .ok response) (now : Time.Instant) :
    report arrivals now = (Report.ofResponse response now).mapError .protocol := by
  simp only [report, received]

theorem report_of_receive_eq_error {arrivals : List Arrival} {error : Error}
    (failed : receive [] arrivals = .error error) (now : Time.Instant) :
    report arrivals now = .error error := by
  simp only [report, failed]

/-- Every report of a client is well formed, whatever has arrived. -/
theorem isWellFormed_of_report {arrivals : List Arrival} {now : Time.Instant} {made : Report}
    (reported : report arrivals now = .ok made) : made.IsWellFormed := by
  cases received : receive [] arrivals with
  | error error =>
    rw [report_of_receive_eq_error received] at reported
    cases reported
  | ok response =>
    have consistent := isConsistent_of_receive received
    rw [report_of_receive_eq_ok received] at reported
    by_cases decodes : response.ImageDecodes
    · obtain ⟨other, same, wellFormed⟩ := exists_ofResponse consistent decodes now
      rw [same] at reported
      cases reported
      exact wellFormed
    · obtain ⟨fault, refused⟩ := exists_invalidPayload decodes now
      rw [refused] at reported
      cases reported

/-! ## Where a client decides -/

/-- The chunks that arrive before the connection ends or fails. -/
def chunksOf : List Arrival → List Bytes
  | .chunk bytes :: rest => bytes :: chunksOf rest
  | _ => []

/-- Why the connection fails behind its chunks, if it does not just end. -/
def failure? : List Arrival → Option SystemFault
  | .chunk _ :: rest => failure? rest
  | .failed fault :: _ => some fault
  | _ => none

/-- With `n` chunks the bytes are a complete document, and with fewer they are none.  A document is
complete if it is read as a whole, so it is not nested too deep and its numbers are in range. -/
structure CompletesAt (chunks : List Bytes) (n : Nat) (document : Document) : Prop where
  complete : Document.read? (chunks.take n).flatten = some document
  first : ∀ m < n, Document.read? (chunks.take m).flatten = none

namespace CompletesAt

variable {chunks : List Bytes} {n : Nat} {document : Document}

theorem pos (completes : CompletesAt chunks n document) : 0 < n := by
  by_contra none
  have nothing := completes.complete
  rw [Nat.eq_zero_of_not_pos none, List.take_zero] at nothing
  cases nothing

theorem le_length (completes : CompletesAt chunks n document) : n ≤ chunks.length := by
  by_contra beyond
  have undecided := completes.first chunks.length (by omega)
  have decided := completes.complete
  rw [List.take_of_length_le (by omega)] at decided
  rw [List.take_length, decided] at undecided
  cases undecided

/-- The outcome is there with the last of these chunks. -/
theorem receive_eq (completes : CompletesAt chunks n document) (others : List Arrival) :
    receive [] ((chunks.take n).map .chunk ++ others) = verdict document := by
  obtain ⟨k, rfl⟩ := Nat.exists_eq_add_one.mpr completes.pos
  refine receive_of_decided (fun m before => judge_eq_none_iff.mpr ?_) ?_ others
  · exact completes.first m before
  · rw [List.nil_append, judge_eq, completes.complete, Option.map_some]

end CompletesAt

/-- Either some number of chunks is the first to be a complete document, or none is. -/
theorem completesAt_or_incomplete (chunks : List Bytes) :
    (∃ n document, CompletesAt chunks n document) ∨
      ∀ n, Document.read? (chunks.take n).flatten = none := by
  by_cases complete : ∃ n, (Document.read? (chunks.take n).flatten).isSome = true
  · obtain ⟨document, read⟩ := Option.isSome_iff_exists.mp (Nat.find_spec complete)
    refine .inl ⟨Nat.find complete, document, read, fun m before => ?_⟩
    exact Option.not_isSome_iff_eq_none.mp (Nat.find_min complete before)
  · refine .inr fun n => Option.not_isSome_iff_eq_none.mp fun read => complete ⟨n, read⟩

/-- What arrives are chunks and then something at which a client stops. -/
theorem exists_arrivals_eq (arrivals : List Arrival) :
    ∃ ending, arrivals = (chunksOf arrivals).map .chunk ++ ending ∧
      ∀ buffer, receive buffer ending = .error (match failure? arrivals with
        | some fault => .transport fault
        | none => .connectionEnded buffer.length) := by
  induction arrivals with
  | nil => exact ⟨[], rfl, fun _ => rfl⟩
  | cons arrival rest ih =>
    cases arrival with
    | ended => exact ⟨.ended :: rest, rfl, fun _ => rfl⟩
    | failed fault => exact ⟨.failed fault :: rest, rfl, fun _ => rfl⟩
    | chunk bytes =>
      obtain ⟨ending, parts, stops⟩ := ih
      exact ⟨ending, congrArg (.chunk bytes :: ·) parts, stops⟩

/-- Without a complete document a client stops where the connection does. -/
theorem receive_of_incomplete {arrivals : List Arrival}
    (incomplete : ∀ n, Document.read? ((chunksOf arrivals).take n).flatten = none) :
    receive [] arrivals = .error (match failure? arrivals with
      | some fault => .transport fault
      | none => .connectionEnded (chunksOf arrivals).flatten.length) := by
  obtain ⟨ending, parts, stops⟩ := exists_arrivals_eq arrivals
  have undecided : ∀ n, judge ([] ++ ((chunksOf arrivals).take n).flatten) = none := fun n =>
    judge_eq_none_iff.mpr (incomplete n)
  have all := receive_of_undecided undecided ending
  rw [← parts, List.nil_append] at all
  rw [all, stops]

/-- With a complete document a client has its outcome, and what comes later does not change it. -/
theorem receive_of_completesAt {arrivals : List Arrival} {n : Nat} {document : Document}
    (completes : CompletesAt (chunksOf arrivals) n document) :
    receive [] arrivals = verdict document ∧
      ∀ others, receive [] (arrivals.take n ++ others) = verdict document := by
  obtain ⟨ending, parts, -⟩ := exists_arrivals_eq arrivals
  have start : arrivals.take n = ((chunksOf arrivals).take n).map .chunk := by
    rw [parts, List.take_append_of_le_length (by simpa using completes.le_length), ← parts,
      List.map_take]
  constructor
  · rw [← List.take_append_drop n arrivals, start]
    exact completes.receive_eq _
  · intro others
    rw [start]
    exact completes.receive_eq others

theorem verdict_ne_connectionEnded (document : Document) (received : Nat) :
    verdict document ≠ .error (.connectionEnded received) := by
  rcases verdict_cases document with ⟨response, -, -, ok⟩ | ⟨-, fault, refused⟩
  · rw [ok]
    nofun
  · rw [refused]
    nofun

/-- A client tells that the connection ended exactly if it did and no chunk completed a document;
it counts all bytes. -/
theorem receive_eq_connectionEnded_iff (arrivals : List Arrival) (received : Nat) :
    receive [] arrivals = .error (.connectionEnded received) ↔
      (∀ n, Document.read? ((chunksOf arrivals).take n).flatten = none) ∧
        failure? arrivals = none ∧ received = (chunksOf arrivals).flatten.length := by
  rcases completesAt_or_incomplete (chunksOf arrivals) with ⟨n, document, completes⟩ | incomplete
  · rw [(receive_of_completesAt completes).1]
    refine iff_of_false (verdict_ne_connectionEnded document received) fun ⟨incomplete, _⟩ => ?_
    have nothing := incomplete n
    rw [completes.complete] at nothing
    cases nothing
  · rw [receive_of_incomplete incomplete]
    cases failure? arrivals with
    | some fault => simp
    | none => simp [incomplete, eq_comm]

/-! ## Any peer -/

/-- What becomes of a complete document, as it is received and as it is reported. -/
inductive Disposed (document : Document) (received : Except Error Response)
    (reported : Except Error Report) : Prop
  /-- A consistent response has a well-formed report. -/
  | reported (response : Response) (made : Report)
      (shaped : Response.shape document.settle = .ok response)
      (consistent : response.IsConsistent) (decodes : response.ImageDecodes)
      (accepted : received = .ok response) (report : reported = .ok made)
      (wellFormed : made.IsWellFormed)
  /-- If only its image does not decode, the report is refused for that. -/
  | undecodable (response : Response) (fault : Base64.Fault)
      (shaped : Response.shape document.settle = .ok response)
      (consistent : response.IsConsistent) (undecodable : ¬ response.ImageDecodes)
      (refusal : reported = .error (.protocol (.invalidPayload fault)))
  /-- All else is no response. -/
  | refused (fault : ResponseFault)
      (none : ∀ response, Response.shape document.settle = .ok response → ¬ response.IsConsistent)
      (invalid : received = .error (.invalidResponse fault))
      (refusal : reported = .error (.invalidResponse fault))

/-- A client that has received what it makes of a document disposes of it. -/
theorem disposed_of_receive {document : Document} {arrivals : List Arrival}
    (received : receive [] arrivals = verdict document) (now : Time.Instant) :
    Disposed document (receive [] arrivals) (report arrivals now) := by
  rcases verdict_cases document with ⟨response, shaped, consistent, ok⟩ | ⟨none, fault, refusal⟩
  · rw [ok] at received
    have reports := report_of_receive_eq_ok received now
    by_cases decodes : response.ImageDecodes
    · obtain ⟨made, same, wellFormed⟩ := exists_ofResponse consistent decodes now
      rw [same] at reports
      exact .reported response made shaped consistent decodes received reports wellFormed
    · obtain ⟨fault, undecodable⟩ := exists_invalidPayload decodes now
      rw [undecodable] at reports
      exact .undecodable response fault shaped consistent decodes reports
  · rw [refusal] at received
    exact .refused fault none received (report_of_receive_eq_error received now)

theorem isWellFormed_of_detectFrame {peer : Peer} {stamp : String} {now : Time.Instant}
    {frame : Frame} {made : Report} (reported : detectFrame peer stamp now frame = .ok made) :
    made.IsWellFormed := by
  unfold detectFrame at reported
  cases asked : frameRequest frame stamp with
  | error error =>
    rw [asked] at reported
    cases reported
  | ok request =>
    cases arrived : peer request.toBytes with
    | error error =>
      simp only [asked, bind, Except.bind, arrived] at reported
      cases reported
    | ok arrivals =>
      simp only [asked, bind, Except.bind, arrived] at reported
      exact isWellFormed_of_report reported

theorem isWellFormed_of_detectRaw {peer : Peer} {now : Time.Instant} {image : Bytes}
    {made : Report} (reported : detectRaw peer now image = .ok made) : made.IsWellFormed := by
  unfold detectRaw at reported
  cases arrived : peer (rawRequest image) with
  | error error =>
    rw [arrived] at reported
    cases reported
  | ok arrivals =>
    rw [arrived] at reported
    exact isWellFormed_of_report reported

/-- Whatever arrives, a client decides with the first chunk that makes a complete document and looks
at nothing after it; such a document is reported or refused.  That the connection ended is told only
if there is no such chunk, with the number of all bytes.  And whomever a client asks, its reports
are well formed. -/
theorem disposed_and_isWellFormed (arrivals : List Arrival) (now : Time.Instant) :
    (∀ n document, CompletesAt (chunksOf arrivals) n document →
      (∀ m < n, judge ((chunksOf arrivals).take m).flatten = none) ∧
      (∀ others, receive [] (arrivals.take n ++ others) = receive [] arrivals) ∧
      Disposed document (receive [] arrivals) (report arrivals now)) ∧
    (∀ received, receive [] arrivals = .error (.connectionEnded received) ↔
      (∀ n, Document.read? ((chunksOf arrivals).take n).flatten = none) ∧
        failure? arrivals = none ∧ received = (chunksOf arrivals).flatten.length) ∧
    (∀ (peer : Peer) (stamp : String) (frame : Frame) (made : Report),
      detectFrame peer stamp now frame = .ok made → made.IsWellFormed) ∧
    ∀ (peer : Peer) (image : Bytes) (made : Report),
      detectRaw peer now image = .ok made → made.IsWellFormed := by
  refine ⟨fun n document completes => ?_, receive_eq_connectionEnded_iff arrivals,
    fun _ _ _ _ reported => isWellFormed_of_detectFrame reported,
    fun _ _ _ reported => isWellFormed_of_detectRaw reported⟩
  have ⟨outcome, whateverFollows⟩ := receive_of_completesAt completes
  refine ⟨fun m before => judge_eq_none_iff.mpr (completes.first m before), fun others => ?_,
    disposed_of_receive outcome now⟩
  rw [whateverFollows, outcome]

/-- Two seconds after the start of 1970. -/
def secondSecond : Time.Instant := ⟨2, 0, by decide⟩

/-- A document in two pieces, and a third piece. -/
def piecedDocument : List Arrival :=
  [.chunk [Ascii.openBrace], .chunk [Ascii.closeBrace], .chunk [0]]

/-- An empty document that comes in two pieces is disposed of with the second one; of the first one
alone the client tells that the connection has ended after one byte. -/
theorem disposed_and_isWellFormed_twoPieces :
    Disposed (.object []) (receive [] piecedDocument) (report piecedDocument secondSecond) ∧
      judge [Ascii.openBrace] = none ∧
      receive [] [.chunk [Ascii.openBrace], .ended] = .error (.connectionEnded 1) := by
  obtain ⟨decides, -⟩ := disposed_and_isWellFormed piecedDocument secondSecond
  obtain ⟨-, ends, -⟩ :=
    disposed_and_isWellFormed [.chunk [Ascii.openBrace], .ended] secondSecond
  have first : ∀ m < 2, Document.read? ((chunksOf piecedDocument).take m).flatten = none := by
    decide +kernel
  obtain ⟨before, -, disposed⟩ := decides 2 (.object []) ⟨rfl, first⟩
  refine ⟨disposed, before 1 (by decide), (ends 1).mpr ⟨fun n => ?_, rfl, rfl⟩⟩
  cases n with
  | zero => decide +kernel
  | succ n =>
    have whole : (chunksOf [.chunk [Ascii.openBrace], .ended]).take (n + 1) =
        [[Ascii.openBrace]] := List.take_of_length_le (Nat.le_add_left 1 n)
    rw [whole]
    decide +kernel

end Client

end FrameCourier
