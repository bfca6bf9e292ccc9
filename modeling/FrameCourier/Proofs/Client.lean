import FrameCourier.Client
import FrameCourier.Proofs.Wire.Responses
import FrameCourier.Proofs.Wire.Scores

/-!
# Responses in pieces

A client reads on until what has arrived is one complete document, and looks at nothing after that.
So it has a response in any pieces with the last byte and nothing before; if the connection ends
earlier, it tells how much has arrived.
-/

namespace FrameCourier

open Wire

/-! ## Responses of a service -/

/-- A response as a service makes it: an error, or as many objects as there are predictions, with
scores in hundredths. -/
def Wire.Response.IsMade : Response → Prop
  | .success report =>
    report.objects.toNat = report.predictions.length ∧
      ∀ prediction ∈ report.predictions, IsHundredth prediction.score
  | .failure _ => True

theorem Wire.Response.IsMade.scoresReadBack {response : Response} (made : response.IsMade) :
    response.ScoresReadBack := by
  cases response with
  | success report =>
    intro prediction inside
    exact Document.Numeral.readsBack_of_numeral (made.2 prediction inside).isScore.1
  | failure report => trivial

theorem Wire.Response.toBytes_ne_nil (response : Response) : response.toBytes ≠ [] := by
  obtain ⟨s, starts⟩ := response.exists_toBytes_eq
  rw [starts]
  exact List.cons_ne_nil _ _

namespace Client

/-- A client finds nothing wrong with it. -/
theorem inconsistency?_of_isMade {response : Response} (made : response.IsMade) :
    inconsistency? response = none := by
  cases response with
  | success report =>
    have scores : report.predictions.find? (fun prediction => !isUnitScore prediction.score) =
        none := by
      rw [List.find?_eq_none]
      intro prediction inside
      simp [(made.2 prediction inside).isScore.2]
    simp [inconsistency?, made.1, scores]
  | failure report => rfl

/-! ## What is known of a buffer -/

/-- What a client makes of a complete document. -/
def verdict (document : Document) : Except Error Response :=
  match Response.shape document.settle with
  | .error mismatch => .error (.invalidResponse (.envelope mismatch))
  | .ok response =>
    match inconsistency? response with
    | some fault => .error (.invalidResponse fault)
    | none => .ok response

/-- Nothing is known of a buffer unless it is a complete document. -/
theorem judge_eq (buffer : Bytes) : judge buffer = (Document.read? buffer).map verdict := by
  unfold judge parse?
  cases Document.read? buffer with
  | none => rfl
  | some document =>
    simp only [Option.map_some, verdict]
    cases Response.shape document.settle with
    | error mismatch => rfl
    | ok response =>
      dsimp only
      cases inconsistency? response <;> rfl

theorem judge_eq_none_iff {buffer : Bytes} :
    judge buffer = none ↔ Document.read? buffer = none := by
  rw [judge_eq, Option.map_eq_none_iff]

/-- While a response is cut short, nothing is known. -/
theorem judge_of_append_eq_toBytes {response : Response} (scores : response.ScoresReadBack)
    {before more : Bytes} (parts : before ++ more = response.toBytes) (unfinished : more ≠ []) :
    judge before = none := by
  simp only [judge, Response.parse?_of_append_eq_toBytes scores parts unfinished]

theorem judge_toBytes {response : Response} (scores : response.ScoresReadBack)
    (consistent : inconsistency? response = none) : judge response.toBytes = some (.ok response) := by
  simp only [judge, Response.parse?_toBytes scores, consistent]

/-! ## Reading on -/

/-- As long as nothing is known, a client keeps what arrives and reads on. -/
theorem receive_of_undecided {buffer : Bytes} {chunks : List Bytes}
    (undecided : ∀ n, judge (buffer ++ (chunks.take n).flatten) = none) (rest : List Arrival) :
    receive buffer (chunks.map .chunk ++ rest) = receive (buffer ++ chunks.flatten) rest := by
  induction chunks generalizing buffer with
  | nil => simp
  | cons chunk chunks ih =>
    have first : judge (buffer ++ chunk) = none := by simpa using undecided 1
    have later : ∀ n, judge (buffer ++ chunk ++ (chunks.take n).flatten) = none := by
      intro n
      simpa using undecided (n + 1)
    rw [List.map_cons, List.cons_append, receive, first, List.flatten_cons, ← List.append_assoc]
    exact ih later

/-- With the first chunk that makes something known, a client has its outcome, and it does not look
at what comes after. -/
theorem receive_of_decided {buffer : Bytes} {chunks : List Bytes} {n : Nat}
    {outcome : Except Error Response}
    (undecided : ∀ m < n + 1, judge (buffer ++ (chunks.take m).flatten) = none)
    (decided : judge (buffer ++ (chunks.take (n + 1)).flatten) = some outcome)
    (rest : List Arrival) :
    receive buffer ((chunks.take (n + 1)).map .chunk ++ rest) = outcome := by
  induction n generalizing buffer chunks with
  | zero =>
    cases chunks with
    | nil =>
      rw [List.take_nil] at decided
      have nothing := undecided 0 Nat.one_pos
      rw [List.take_zero, decided] at nothing
      cases nothing
    | cons chunk chunks =>
      have first : judge (buffer ++ chunk) = some outcome := by simpa using decided
      simp [receive, first]
  | succ n ih =>
    cases chunks with
    | nil =>
      rw [List.take_nil] at decided
      have nothing := undecided 0 (Nat.succ_pos _)
      rw [List.take_zero, decided] at nothing
      cases nothing
    | cons chunk chunks =>
      have first : judge (buffer ++ chunk) = none := by simpa using undecided 1 (by omega)
      have later : ∀ m < n + 1, judge (buffer ++ chunk ++ (chunks.take m).flatten) = none := by
        intro m bound
        simpa using undecided (m + 1) (by omega)
      rw [List.take_succ_cons, List.map_cons, List.cons_append, receive, first]
      exact ih later (by simpa using decided)

/-! ## A response, whole or cut short -/

section

variable {response : Response} (scores : response.ScoresReadBack)

include scores

/-- A part of a response is no complete document, wherever it is cut. -/
theorem judge_take_of_ne_nil {chunks : List Bytes} {more : Bytes}
    (parts : chunks.flatten ++ more = response.toBytes) {n : Nat}
    (unfinished : (chunks.drop n).flatten ++ more ≠ []) :
    judge (chunks.take n).flatten = none := by
  have cut : (chunks.take n).flatten ++ ((chunks.drop n).flatten ++ more) = response.toBytes := by
    rw [← List.append_assoc, ← List.flatten_append, List.take_append_drop, parts]
  exact judge_of_append_eq_toBytes scores cut unfinished

/-- A connection that ends before a response is complete has ended after so many bytes. -/
theorem receive_cut_short {chunks : List Bytes} {more : Bytes}
    (parts : chunks.flatten ++ more = response.toBytes) (unfinished : more ≠ [])
    (rest : List Arrival) :
    receive [] (chunks.map .chunk ++ .ended :: rest) =
      .error (.connectionEnded chunks.flatten.length) := by
  have undecided : ∀ n, judge ([] ++ (chunks.take n).flatten) = none := fun n =>
    judge_take_of_ne_nil scores parts fun nothing =>
      unfinished (List.append_eq_nil_iff.mp nothing).2
  rw [receive_of_undecided undecided, receive, List.nil_append]

/-- A response is received with its last byte, however it is cut and whatever comes after it. -/
theorem receive_response (consistent : inconsistency? response = none) {buffer : Bytes}
    {chunks : List Bytes} (parts : buffer ++ chunks.flatten = response.toBytes)
    (unfinished : chunks.flatten ≠ []) (rest : List Arrival) :
    receive buffer (chunks.map .chunk ++ rest) = .ok response := by
  induction chunks generalizing buffer with
  | nil => exact absurd rfl unfinished
  | cons chunk chunks ih =>
    rw [List.flatten_cons, ← List.append_assoc] at parts
    simp only [List.map_cons, List.cons_append, receive]
    by_cases last : chunks.flatten = []
    · rw [last, List.append_nil] at parts
      rw [parts, judge_toBytes scores consistent]
    · rw [judge_of_append_eq_toBytes scores parts last]
      exact ih parts last

end

/-- However a response as a service makes it is cut into pieces, every piece but the last leaves a
client without an outcome, and with the last one it has the response, whatever comes after.  If the
connection ends after fewer bytes than the response has, the client tells how many there were. -/
theorem receive_made {response : Response} (made : response.IsMade) :
    (∀ chunks : List Bytes, chunks.flatten = response.toBytes → (∀ chunk ∈ chunks, chunk ≠ []) →
      (∀ n < chunks.length, judge (chunks.take n).flatten = none) ∧
      judge chunks.flatten = some (.ok response) ∧
      ∀ rest, receive [] (chunks.map .chunk ++ rest) = .ok response) ∧
    ∀ (n : Nat) (chunks : List Bytes), n < response.toBytes.length →
      chunks.flatten = response.toBytes.take n →
      ∀ rest, receive [] (chunks.map .chunk ++ .ended :: rest) = .error (.connectionEnded n) := by
  have scores := made.scoresReadBack
  have consistent := inconsistency?_of_isMade made
  constructor
  · intro chunks cut some
    refine ⟨fun n before => ?_, ?_, fun rest => ?_⟩
    · have parts : chunks.flatten ++ [] = response.toBytes := by rw [List.append_nil, cut]
      refine judge_take_of_ne_nil scores parts ?_
      rw [List.append_nil, List.drop_eq_getElem_cons before, List.flatten_cons]
      exact fun nothing =>
        some _ (List.getElem_mem before) (List.append_eq_nil_iff.mp nothing).1
    · rw [cut, judge_toBytes scores consistent]
    · exact receive_response scores consistent cut (cut ▸ response.toBytes_ne_nil) rest
  · intro n chunks short cut rest
    have parts : chunks.flatten ++ response.toBytes.drop n = response.toBytes := by
      rw [cut, List.take_append_drop]
    have unfinished : response.toBytes.drop n ≠ [] := by
      rw [ne_eq, List.drop_eq_nil_iff]
      omega
    rw [receive_cut_short scores parts unfinished, cut, List.length_take_of_le (by omega)]

/-- A response with two objects, one of them at the border of what a box can be, and an image. -/
def twoFound : Response :=
  .success ⟨2, [⟨"a \"b\"\n", hundredth 29, ⟨-5, 0, 7, 9223372036854775807⟩⟩,
    ⟨"", .zero _ true, ⟨0, 0, 0, 0⟩⟩], "then", none, some "/9g="⟩

/-- It is received when it is cut behind its fifth byte, and missed when the connection ends behind
its seventh. -/
theorem receive_made_twoFound :
    judge [twoFound.toBytes.take 5, twoFound.toBytes.drop 5].flatten = some (.ok twoFound) ∧
      receive [] [.chunk (twoFound.toBytes.take 7), .ended] = .error (.connectionEnded 7) := by
  have made : twoFound.IsMade := by
    refine ⟨rfl, fun prediction inside => ?_⟩
    rcases List.mem_pair.mp inside with rfl | rfl
    · exact .inl ⟨29, by omega, rfl⟩
    · exact .inr rfl
  have long : 7 < twoFound.toBytes.length := by decide +kernel
  have whole : [twoFound.toBytes.take 5, twoFound.toBytes.drop 5].flatten = twoFound.toBytes := by
    simp
  have nonEmpty : ∀ chunk ∈ [twoFound.toBytes.take 5, twoFound.toBytes.drop 5], chunk ≠ [] := by
    simp only [List.mem_pair, ne_eq]
    rintro chunk (rfl | rfl)
    · simp [twoFound.toBytes_ne_nil]
    · rw [List.drop_eq_nil_iff]
      omega
  have received := receive_made made
  exact ⟨(received.1 _ whole nonEmpty).2.1,
    received.2 7 [twoFound.toBytes.take 7] long (by simp) []⟩

end Client

end FrameCourier
