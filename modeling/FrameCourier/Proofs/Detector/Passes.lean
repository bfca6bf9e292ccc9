import FrameCourier.Detector.Network
import FrameCourier.Proofs.Detector.Overlap
import Mathlib.Logic.Function.Iterate

/-!
# Passes of suppression

Suppression goes from pass to pass until nothing is left.  A pass removes its best candidate
unless that candidate stands for another object than itself; then the candidate stays the best
one, pass after pass.  So suppression ends exactly if no pass begins with such a candidate.
-/

namespace FrameCourier.Candidate

/-- After some number of passes nothing is left. -/
def Ends (candidates : List Candidate) : Prop := ∃ count, pass^[count] candidates = []

/-- What is kept, pass by pass: the best candidate, and what the rest of the passes keep. -/
inductive Keeps : List Candidate → List Candidate → Prop where
  | nothing : Keeps [] []
  | pass {best : Candidate} {rest kept : List Candidate} (later : Keeps (pass (best :: rest)) kept) :
    Keeps (best :: rest) (best :: kept)

variable {best : Candidate} {rest candidates kept : List Candidate}

/-! ## One pass -/

theorem pass_cons_of_isApart (apart : best.isApart best = true) :
    pass (best :: rest) = best :: rest.filter best.isApart :=
  List.filter_cons_of_pos apart

theorem mem_pass_iff : best ∈ pass (best :: rest) ↔ best.isApart best = true := by
  simp [pass, List.mem_filter]

/-- Induction over the passes, as long as they remove their best candidates. -/
theorem induction_on_passes {motive : List Candidate → Prop} (nothing : motive [])
    (stays : ∀ best rest, best.isApart best = true → motive (best :: rest))
    (removed : ∀ best rest, best.isApart best = false → motive (rest.filter best.isApart) →
      motive (best :: rest)) :
    ∀ candidates, motive candidates
  | [] => nothing
  | best :: rest => by
    cases apart : best.isApart best with
    | true => exact stays best rest apart
    | false => exact removed best rest apart (induction_on_passes nothing stays removed _)
termination_by candidates => candidates.length
decreasing_by exact Nat.lt_succ_of_le (List.length_filter_le _ _)

/-! ## All passes -/

theorem ends_nil : Ends [] := ⟨0, rfl⟩

/-- A best candidate that a pass does not remove is the best one for ever. -/
theorem exists_iterate_pass_eq_cons (apart : best.isApart best = true) (count : Nat) :
    ∀ rest, ∃ left, pass^[count] (best :: rest) = best :: left := by
  induction count with
  | zero => exact fun rest => ⟨rest, rfl⟩
  | succ count ih =>
    intro rest
    rw [Function.iterate_succ_apply, pass_cons_of_isApart apart]
    exact ih _

theorem not_ends_of_isApart (apart : best.isApart best = true) : ¬Ends (best :: rest) := by
  rintro ⟨count, ended⟩
  obtain ⟨left, stays⟩ := exists_iterate_pass_eq_cons apart count rest
  rw [ended] at stays
  cases stays

theorem ends_pass_iff : Ends (pass candidates) ↔ Ends candidates := by
  constructor
  · rintro ⟨count, ended⟩
    exact ⟨count + 1, ended⟩
  · rintro ⟨count, ended⟩
    refine ⟨count, ?_⟩
    rw [← Function.iterate_succ_apply, Function.iterate_succ_apply', ended]
    rfl

theorem ends_iterate_pass_iff (count : Nat) : Ends (pass^[count] candidates) ↔ Ends candidates := by
  induction count with
  | zero => exact Iff.rfl
  | succ count ih => rw [Function.iterate_succ_apply', ends_pass_iff, ih]

/-- Suppression ends exactly if every pass removes its best candidate. -/
theorem ends_iff_removed :
    Ends candidates ↔
      ∀ count best rest, pass^[count] candidates = best :: rest → best.isApart best = false := by
  constructor
  · intro ends count best rest begins
    rw [← ends_iterate_pass_iff count, begins] at ends
    exact Bool.eq_false_iff.mpr fun apart => not_ends_of_isApart apart ends
  · induction candidates using induction_on_passes with
    | nothing => exact fun _ => ends_nil
    | stays best rest apart =>
      intro removed
      rw [removed 0 best rest rfl] at apart
      cases apart
    | removed best rest notApart ih =>
      intro removed
      rw [← ends_pass_iff, pass_cons_of_not_isApart notApart]
      refine ih fun count => ?_
      rw [← pass_cons_of_not_isApart notApart]
      exact removed (count + 1)

/-- There are not more passes than candidates. -/
theorem iterate_pass_eq_nil (ends : Ends candidates) : pass^[candidates.length] candidates = [] := by
  induction candidates using induction_on_passes with
  | nothing => rfl
  | stays best rest apart => exact absurd ends (not_ends_of_isApart apart)
  | removed best rest notApart ih =>
    rw [← ends_pass_iff, pass_cons_of_not_isApart notApart] at ends
    rw [List.length_cons, Function.iterate_succ_apply, pass_cons_of_not_isApart notApart]
    obtain ⟨more, total⟩ := Nat.exists_eq_add_of_le' (List.length_filter_le best.isApart rest)
    rw [total, Function.iterate_add_apply, ih ends]
    exact Function.iterate_fixed rfl more

/-! ## The result -/

theorem suppress_nil : suppress [] = some [] := by
  rw [suppress.eq_def]

theorem suppress_cons_of_isApart (apart : best.isApart best = true) :
    suppress (best :: rest) = none := by
  rw [suppress.eq_def]
  exact if_pos apart

theorem suppress_cons_of_not_isApart (removed : best.isApart best = false) :
    suppress (best :: rest) = (suppress (rest.filter best.isApart)).map (best :: ·) := by
  rw [suppress.eq_def]
  exact if_neg (by simp [removed])

/-- There is no result exactly if suppression does not end. -/
theorem suppress_eq_none_iff : suppress candidates = none ↔ ¬Ends candidates := by
  induction candidates using induction_on_passes with
  | nothing => simp [suppress_nil, ends_nil]
  | stays best rest apart => simp [suppress_cons_of_isApart apart, not_ends_of_isApart apart]
  | removed best rest notApart ih =>
    rw [← ends_pass_iff, pass_cons_of_not_isApart notApart, ← ih,
      suppress_cons_of_not_isApart notApart, Option.map_eq_none_iff]

/-- The result is what the passes keep. -/
theorem keeps_of_suppress : suppress candidates = some kept → Keeps candidates kept := by
  induction candidates using induction_on_passes generalizing kept with
  | nothing =>
    rw [suppress_nil]
    rintro ⟨⟩
    exact .nothing
  | stays best rest apart =>
    rw [suppress_cons_of_isApart apart]
    rintro ⟨⟩
  | removed best rest notApart ih =>
    rw [suppress_cons_of_not_isApart notApart, Option.map_eq_some_iff]
    rintro ⟨later, result, rfl⟩
    refine .pass ?_
    rw [pass_cons_of_not_isApart notApart]
    exact ih result

end FrameCourier.Candidate

namespace FrameCourier.Network

open Number FrameCourier.Candidate

/-- Suppression of a table's candidates ends exactly if no pass begins with a candidate that is
reversed or vast; it then takes no more passes than there are candidates, and only then there
are detections.  Any other candidate is removed by the pass that begins with it. -/
theorem ends_candidates_iff (labels : List ColorLabel) (least : Single) (width height : Nat)
    (table : Table) :
    (Ends (candidates least width height table) ↔
      ∀ count best rest, pass^[count] (candidates least width height table) = best :: rest →
        ¬(best.IsReversed ∨ best.IsVast)) ∧
    (Ends (candidates least width height table) ↔
      pass^[(candidates least width height table).length] (candidates least width height table) =
        []) ∧
    (Ends (candidates least width height table) ↔
      ∃ detections, detections? labels least width height table = some detections) ∧
    ∀ best rest, best ∉ pass (best :: rest) ↔ ¬(best.IsReversed ∨ best.IsVast) := by
  have apart : ∀ best : Candidate, best.isApart best = false ↔ ¬(best.IsReversed ∨ best.IsVast) :=
    fun best => by rw [← isApart_self_iff, Bool.not_eq_true]
  refine ⟨?_, ?_, ?_, ?_⟩
  · simp only [← apart]
    exact ends_iff_removed
  · exact ⟨iterate_pass_eq_nil, fun ended => ⟨_, ended⟩⟩
  · rw [← Option.isSome_iff_exists, detections?, Option.isSome_map, Option.isSome_iff_ne_none, ne_eq,
      suppress_eq_none_iff, not_not]
  · intro best rest
    rw [mem_pass_iff, ← apart, Bool.not_eq_true]

/-- A table of one row: a box of the given extents at the origin, with a score of 0.9. -/
def oneBox (width height : Single) : Table :=
  ⟨[1, 5, 1], #[Binary.zero _ false, Binary.zero _ false, width, height,
    Binary.ofRat _ false (9 / 10)]⟩

/-- A box with one corner to the wrong side of the other. -/
def reversedBox : Table := oneBox (Binary.ofInt _ (-1)) (Binary.ofInt _ 1)

/-- A box of more than half the greatest area. -/
def vastBox : Table := oneBox (Binary.ofInt _ (15 * 2 ^ 60)) (Binary.ofInt _ (15 * 2 ^ 60))

/-- Suppression does not end for either of the two, each in a table of the right shape. -/
theorem not_ends_reversedBox_or_vastBox :
    (reversedBox.shape = [1, 5, 1] ∧ reversedBox.checked = .ok reversedBox ∧
      ¬Ends (candidates (Binary.zero _ false) 640 640 reversedBox)) ∧
    vastBox.shape = [1, 5, 1] ∧ vastBox.checked = .ok vastBox ∧
      ¬Ends (candidates (Binary.zero _ false) 640 640 vastBox) := by
  have one : ∀ table candidate, candidate.isApart candidate = true →
      table.rows.filterMap (candidate? (Binary.zero _ false)
        (Binary.ofInt _ (640 : Nat) / inputExtent) (Binary.ofInt _ (640 : Nat) / inputExtent)) =
        [candidate] →
      ¬Ends (candidates (Binary.zero _ false) 640 640 table) := by
    intro table candidate apart row
    rw [candidates, row, List.mergeSort_singleton]
    exact not_ends_of_isApart apart
  refine ⟨⟨rfl, rfl, ?_⟩, rfl, rfl, ?_⟩
  · exact one _ ⟨0, Binary.ofRat _ false (9 / 10), Binary.ofRat _ false (1 / 2),
      Binary.ofRat _ false (-1 / 2), Binary.ofRat _ false (-1 / 2), Binary.ofRat _ false (1 / 2)⟩
      (by decide +kernel) (by decide +kernel)
  · exact one _ ⟨0, Binary.ofRat _ false (9 / 10), Binary.ofInt _ (-15 * 2 ^ 59),
      Binary.ofInt _ (-15 * 2 ^ 59), Binary.ofInt _ (15 * 2 ^ 59), Binary.ofInt _ (15 * 2 ^ 59)⟩
      (by decide +kernel) (by decide +kernel)

end FrameCourier.Network
