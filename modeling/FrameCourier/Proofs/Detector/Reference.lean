import FrameCourier.Proofs.Detector.Candidates
import FrameCourier.Proofs.Detector.Greedy
import FrameCourier.Proofs.Detector.Passes

/-!
# What a detector answers

The answer on a table is the greedy choice among the candidates of its rows, in their order, by
whether two of them stand for different objects.  Where suppression ends, a detector has this
answer and no other one.
-/

namespace FrameCourier

/-! ## Suppression is the greedy choice -/

namespace Candidate

variable {candidates kept : List Candidate}

theorem Keeps.ends (keeps : Keeps candidates kept) : Ends candidates := by
  induction keeps with
  | nothing => exact ends_nil
  | pass _ ih => exact ends_pass_iff.mp ih

theorem Keeps.eq_greedy (keeps : Keeps candidates kept) : kept = greedy isApart candidates := by
  induction keeps with
  | nothing => rw [greedy_nil]
  | @pass best rest kept later ih =>
    have removed : best.isApart best = false := Bool.eq_false_iff.mpr fun apart =>
      not_ends_of_isApart apart (ends_pass_iff.mp later.ends)
    rw [greedy_cons, ← pass_cons_of_not_isApart removed, ← ih]

/-- Where suppression ends, it keeps the greedy choice. -/
theorem suppress_of_ends (ends : Ends candidates) :
    suppress candidates = some (greedy isApart candidates) := by
  cases result : suppress candidates with
  | none => exact absurd ends (suppress_eq_none_iff.mp result)
  | some kept => rw [(keeps_of_suppress result).eq_greedy]

/-- Suppression ends if no candidate stands for another object than itself. -/
theorem ends_of_forall_not_isApart (removed : ∀ best ∈ candidates, best.isApart best = false) :
    Ends candidates := by
  induction candidates using induction_on_passes with
  | nothing => exact ends_nil
  | stays best rest apart =>
    rw [removed best List.mem_cons_self] at apart
    cases apart
  | removed best rest notApart ih =>
    rw [← ends_pass_iff, pass_cons_of_not_isApart notApart]
    exact ih fun other mem => removed other (List.mem_cons_of_mem _ (List.mem_of_mem_filter mem))

end Candidate

/-! ## The answer on a table -/

namespace Network

open Number FrameCourier.Candidate

/-- The candidates, with their rows, that are answered for a table: in the order of the ranking,
each one that stands for another object than all answered before it. -/
def IsAnswer (least : Single) (width height : Nat) (table : Table)
    (answered : List (Candidate × Nat)) : Prop :=
  ∃ ranked, IsRanking least width height table ranked ∧
    IsGreedy (fun a b => a.1.isApart b.1) ranked answered

/-- The detection of a candidate: by the label of its class, or by the number of its class past
the last label. -/
structure IsDetectionOf (labels : List ColorLabel) (candidate : Candidate) (detection : Detection) :
    Prop where
  known : ∀ label, labels[candidate.classNumber]? = some label →
    detection.label = label.label ∧ detection.color = some label.color
  unknown : labels.length ≤ candidate.classNumber →
    detection.label = "Unknown class " ++ toString candidate.classNumber ∧ detection.color = none
  confidence : detection.confidence = candidate.confidence
  box : detection.box = ⟨candidate.left, candidate.top, candidate.right - candidate.left,
    candidate.bottom - candidate.top⟩

theorem isDetectionOf_detectionOf (labels : List ColorLabel) (candidate : Candidate) :
    IsDetectionOf labels candidate (detectionOf labels candidate) := by
  unfold detectionOf
  refine ⟨fun label found => ?_, fun beyond => ?_, ?_, ?_⟩
  · simp [found]
  · simp [List.getElem?_eq_none beyond]
  · split; rfl
  · split; rfl

section

variable {least : Single} {width height : Nat} {table : Table} {answered : List (Candidate × Nat)}

namespace IsAnswer

/-- There is one answer on a table. -/
theorem unique {other : List (Candidate × Nat)} (first : IsAnswer least width height table answered)
    (second : IsAnswer least width height table other) : answered = other := by
  obtain ⟨ranked, ranking, greedy⟩ := first
  obtain ⟨ranked', ranking', greedy'⟩ := second
  obtain rfl := ranking.unique ranking'
  exact greedy.unique ranking.nodup greedy'

/-- Confidences never increase. -/
theorem pairwise_confidence (answer : IsAnswer least width height table answered) :
    answered.Pairwise fun a b => b.1.confidence.totalKey ≤ a.1.confidence.totalKey := by
  obtain ⟨ranked, ranking, greedy⟩ := answer
  refine (ranking.ordered.sublist greedy.sublist).imp fun precedes => ?_
  unfold Precedes at precedes
  omega

/-- No row is answered twice. -/
theorem nodup_rows (answer : IsAnswer least width height table answered) :
    (answered.map Prod.snd).Nodup := by
  obtain ⟨ranked, ranking, greedy⟩ := answer
  refine List.Nodup.map_on ?_ (ranking.nodup.sublist greedy.sublist)
  rintro ⟨candidate, number⟩ mem ⟨candidate', number'⟩ mem' same
  -- A row gives one candidate.
  obtain ⟨row, isRow, candidateOf⟩ := (ranking.mem_iff _ _).mp (greedy.sublist.mem mem)
  obtain ⟨row', isRow', candidateOf'⟩ := (ranking.mem_iff _ _).mp (greedy.sublist.mem mem')
  obtain rfl : number = number' := same
  obtain rfl := isRow.unique isRow'
  rw [candidateOf.unique candidateOf']

/-- Any two answered candidates stand for different objects, in either order. -/
theorem pairwise_isApart (answer : IsAnswer least width height table answered) :
    answered.Pairwise fun a b => a.1.isApart b.1 = true ∧ b.1.isApart a.1 = true := by
  obtain ⟨ranked, ranking, greedy⟩ := answer
  refine greedy.pairwise.imp fun {a b} apart => ⟨apart, ?_⟩
  rw [isApart_comm]
  exact apart

/-- A candidate that is left out stands for the same object as an answered one that is at least
as confident. -/
theorem exists_of_not_mem (answer : IsAnswer least width height table answered)
    {candidate : Candidate} {number : Nat} {row : List Single} (isRow : table.IsRow number row)
    (candidateOf : IsCandidateOf least (Binary.ofInt _ width / inputExtent)
      (Binary.ofInt _ height / inputExtent) row candidate)
    (left : (candidate, number) ∉ answered) :
    ∃ kept ∈ answered, kept.1.isApart candidate = false ∧
      candidate.confidence.totalKey ≤ kept.1.confidence.totalKey := by
  obtain ⟨ranked, ranking, greedy⟩ := answer
  obtain ⟨kept, mem, notApart, before⟩ :=
    greedy.exists_of_not_mem ((ranking.mem_iff _ _).mpr ⟨row, isRow, candidateOf⟩) left
  have precedes := List.pairwise_iff_forall_sublist.mp ranking.ordered before
  simp only [Precedes] at precedes
  exact ⟨kept, mem, notApart, by omega⟩

end IsAnswer

/-- Where suppression ends, what it keeps is the answer. -/
theorem exists_isAnswer {rows columns depth : Nat} (labels : List ColorLabel)
    (checked : table.checked = .ok table)
    (shape : table.shape = [rows, columns, depth]) (deep : 0 < depth)
    (ends : Ends (candidates least width height table)) :
    ∃ answered, IsAnswer least width height table answered ∧
      detections? labels least width height table =
        some (answered.map fun a => detectionOf labels a.1) := by
  have ranking : IsRanking least width height table (ranking least width height table) :=
    isRanking_ranking checked shape deep
  refine ⟨_, ⟨_, ranking, isGreedy_greedy ranking.nodup⟩, ?_⟩
  rw [detections?, suppress_of_ends ends, ← map_fst_ranking, greedy_map, Option.map_some,
    List.map_map]
  rfl

end

/-- A detector answers a table of three axes, the last one not empty, as the reference does if
suppression ends: it has detections, which are those of the one answer on the table.  Their
confidences never increase, no row is answered twice, any two answered boxes stand for different
objects, and each candidate left out stands for the object of an answered one at least as
confident. -/
theorem detect_eq_reference {codec : Picture.ImageCodec} {labels : List ColorLabel}
    {least : Single} {image : Bytes} {canvas : Picture.Canvas} {table : Table}
    {rows columns depth : Nat} (decoded : codec.decode image = .ok canvas)
    (checked : table.checked = .ok table) (shape : table.shape = [rows, columns, depth])
    (deep : 0 < depth) (ends : Ends (candidates least canvas.width canvas.height table)) :
    ∃ answered detections,
      detect codec labels least (.ok table) image = .ok (some detections) ∧
      (∀ other, IsAnswer least canvas.width canvas.height table other ↔ other = answered) ∧
      List.Forall₂ (fun a detection => IsDetectionOf labels a.1 detection) answered detections ∧
      (detections.Pairwise fun a b => b.confidence.totalKey ≤ a.confidence.totalKey) ∧
      (answered.map Prod.snd).Nodup ∧
      (answered.Pairwise fun a b => a.1.isApart b.1 = true ∧ b.1.isApart a.1 = true) ∧
      ∀ number row candidate, table.IsRow number row →
        IsCandidateOf least (Binary.ofInt _ canvas.width / inputExtent)
          (Binary.ofInt _ canvas.height / inputExtent) row candidate →
        (candidate, number) ∉ answered →
        ∃ kept ∈ answered, kept.1.isApart candidate = false ∧
          candidate.confidence.totalKey ≤ kept.1.confidence.totalKey := by
  obtain ⟨answered, answer, found⟩ := exists_isAnswer labels checked shape deep ends
  refine ⟨answered, answered.map fun a => detectionOf labels a.1, ?_, ?_, ?_, ?_,
    answer.nodup_rows, answer.pairwise_isApart, ?_⟩
  · simp only [detect, decoded, Except.bind, checked, found]
  · intro other
    constructor
    · exact fun isAnswer => isAnswer.unique answer
    · rintro rfl
      exact answer
  · rw [List.forall₂_map_right_iff, List.forall₂_same]
    exact fun a _ => isDetectionOf_detectionOf labels a.1
  · rw [List.pairwise_map]
    refine answer.pairwise_confidence.imp fun {a b} notLess => ?_
    rw [(isDetectionOf_detectionOf labels a.1).confidence,
      (isDetectionOf_detectionOf labels b.1).confidence]
    exact notLess
  · exact fun _ _ _ isRow candidateOf left => answer.exists_of_not_mem isRow candidateOf left

/-- Four boxes, the first two of them one box with equally good scores, and the last one with poor
scores. -/
def fourBoxes : Table :=
  ⟨[4, 6, 1], #[
    .ofInt _ 100, .ofInt _ 100, .ofInt _ 40, .ofInt _ 40,
      .ofRat _ false (1 / 2), .ofRat _ false (9 / 10),
    .ofInt _ 100, .ofInt _ 100, .ofInt _ 40, .ofInt _ 40,
      .ofRat _ false (9 / 10), .ofRat _ false (9 / 10),
    .ofInt _ 300, .ofInt _ 100, .ofInt _ 40, .ofInt _ 40,
      .ofRat _ false (19 / 20), .notANumber _,
    .ofInt _ 500, .ofInt _ 100, .ofInt _ 40, .ofInt _ 40,
      .ofRat _ false (1 / 5), .ofRat _ false (1 / 10)]⟩

/-- The four boxes have an answer on an image of 320 by 320 pixels. -/
theorem detect_fourBoxes :
    ∃ answered detections,
      detect ⟨fun _ => .ok (.filled 320 320 ⟨0, 0, 0⟩), fun _ _ => []⟩ [⟨"box", ⟨255, 0, 0⟩⟩]
        (Binary.ofRat _ false (1 / 2)) (.ok fourBoxes) [] = .ok (some detections) ∧
      (∀ other, IsAnswer (Binary.ofRat _ false (1 / 2)) 320 320 fourBoxes other ↔ other = answered) ∧
      (detections.Pairwise fun a b => b.confidence.totalKey ≤ a.confidence.totalKey) := by
  have ends : Ends (candidates (Binary.ofRat _ false (1 / 2)) 320 320 fourBoxes) := by
    refine ends_of_forall_not_isApart fun best mem => ?_
    rw [candidates, List.mem_mergeSort] at mem
    revert best
    decide +kernel
  obtain ⟨answered, detections, found, answer, -, sorted, -⟩ :=
    @detect_eq_reference ⟨fun _ => .ok (.filled 320 320 ⟨0, 0, 0⟩), fun _ _ => []⟩
      [⟨"box", ⟨255, 0, 0⟩⟩] _ [] _ _ _ _ _ rfl rfl rfl Nat.one_pos ends
  exact ⟨answered, detections, found, answer, sorted⟩

end Network

end FrameCourier
