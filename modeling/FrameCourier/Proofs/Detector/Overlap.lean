import FrameCourier.Detector.Suppression
import FrameCourier.Proofs.Number.Alike

/-!
# Overlaps

Whether two candidates stand for different objects does not depend on which of them comes first.

A candidate stands for another object than itself in two cases: one of its extents is negative,
so that it shares nothing with itself but has an area, or its area is finite and twice its area
is not.
-/

namespace FrameCourier.Candidate

open Number Binary

/-! ## Numbers beside zero -/

section

variable {b i s : Single}

theorem isNotANumber_nothing : nothing.isNotANumber = false := by decide +kernel

theorem isZero_nothing : nothing.isZero = true := rfl

/-- A number that is not zero lies on the side of zero that its sign tells. -/
theorem lt_nothing (number : b.isNotANumber = false) (some : b.isZero = false) :
    b.lt nothing = b.negative := by
  rw [Bool.eq_iff_iff, ← (key_of_not_isZero some).1]
  simp [lt, number, isNotANumber_nothing, key_of_isZero isZero_nothing]

/-- A number cut at zero. -/
theorem max_nothing (number : b.isNotANumber = false) :
    b.max nothing = if b.lt nothing then nothing else b := by
  simp only [Binary.max, number, isNotANumber_nothing, Bool.false_eq_true, if_false]

theorem zero_lt_threshold (negative : Bool) : (Binary.zero _ negative).lt threshold = true := by
  cases negative <;> decide +kernel

/-- Without a share in it, a whole stands for another object if it is a number and not zero. -/
theorem lt_threshold_of_isZero (zero : i.isZero = true) :
    (i / s).lt threshold = (!s.isNotANumber && !s.isZero) := by
  have exact : ∀ negative, ofRat Format.single negative 0 = Binary.zero _ negative := fun _ => by
    simp [ofRat, Binary.zero, nearestCode_zero]
  show (div i s).lt threshold = _
  simp only [div, isNotANumber_of_isZero zero, isInfinite_of_isFinite (isFinite_of_isZero zero),
    zero, Bool.false_or, Bool.false_eq_true, if_false, if_true, value_of_isZero zero, zero_div,
    exact]
  cases number : s.isNotANumber
  · cases bounded : s.isInfinite
    · cases none : s.isZero
      · simp [zero_lt_threshold]
      · simp [lt_of_isNotANumber isNotANumber_notANumber]
    · simp [zero_lt_threshold, isZero_of_isInfinite bounded]
  · simp [lt_of_isNotANumber isNotANumber_notANumber]

end

/-! ## Either order -/

/-- What two candidates share is alike in both orders. -/
theorem alike_intersection (a b : Candidate) : Alike (intersection a b) (intersection b a) := by
  have width := (alike_min_comm a.right b.right).sub (alike_max_comm a.left b.left)
  have height := (alike_min_comm a.bottom b.bottom).sub (alike_max_comm a.top b.top)
  exact (width.max_right nothing).mul (height.max_right nothing)

/-- Two candidates stand for different objects in either order. -/
theorem isApart_comm (a b : Candidate) : a.isApart b = b.isApart a := by
  have areas := Binary.add_comm ((a.right - a.left) * (a.bottom - a.top))
    ((b.right - b.left) * (b.bottom - b.top))
  have shared := alike_intersection a b
  unfold isApart overlap union
  rw [areas]
  generalize (b.right - b.left) * (b.bottom - b.top) + _ = whole
  generalize intersection a b = i at shared ⊢
  generalize intersection b a = j at shared ⊢
  cases shared with
  | same => rfl
  | zeros left right =>
    have first := sub_of_isZero left (a := whole)
    have second := sub_of_isZero right (a := whole)
    rw [lt_threshold_of_isZero left, lt_threshold_of_isZero right, first.1, first.2, second.1,
      second.2]
  | noNumbers left right =>
    rw [lt_of_isNotANumber (isNotANumber_div_left left),
      lt_of_isNotANumber (isNotANumber_div_left right)]

/-! ## A candidate and itself -/

def width (c : Candidate) : Single := c.right - c.left

def height (c : Candidate) : Single := c.bottom - c.top

/-- The area of a candidate, negative if one of its extents is. -/
def area (c : Candidate) : Single := c.width * c.height

/-- A box whose corners are the wrong way round in at least one direction.  It has an area, and
it is not boundless in the other direction. -/
structure IsReversed (c : Candidate) : Prop where
  number : c.area.isNotANumber = false
  some : c.area.isZero = false
  negative : c.width.lt nothing = true ∨ c.height.lt nothing = true
  bounded : c.width ≠ infinite _ false ∧ c.height ≠ infinite _ false

/-- A box without a negative extent whose area is finite, but too great to be added to itself. -/
structure IsVast (c : Candidate) : Prop where
  notNegative : c.width.lt nothing = false ∧ c.height.lt nothing = false
  finite : c.area.isFinite = true
  doubled : (c.area + c.area).isInfinite = true

section

variable {c : Candidate}

theorem intersection_self (c : Candidate) :
    intersection c c = c.width.max nothing * c.height.max nothing := by
  simp only [intersection, min_self, max_self, width, height]

theorem isApart_self (c : Candidate) :
    c.isApart c =
      (intersection c c / (c.area + c.area - intersection c c)).lt threshold := rfl

/-- An area that is no number shares no number with itself. -/
theorem isApart_self_of_isNotANumber (noNumber : c.area.isNotANumber = true) :
    c.isApart c = false := by
  rw [isApart_self]
  exact lt_of_isNotANumber (isNotANumber_div_right (isNotANumber_add_left
    (isNotANumber_add_left noNumber)))

theorem isFinite_max_nothing {b : Single} (number : b.isNotANumber = false)
    (bounded : b ≠ infinite _ false) : (b.max nothing).isFinite = true := by
  rw [max_nothing number]
  split
  · exact isFinite_of_isZero isZero_nothing
  · next notNegative =>
    refine isFinite_of_not_isInfinite number (Bool.eq_false_iff.mpr fun isInfinite => bounded ?_)
    have sign : b.negative = false := by
      rwa [lt_nothing number (isZero_of_isInfinite isInfinite), Bool.not_eq_true] at notNegative
    exact eq_of_isInfinite isInfinite (decide_eq_true rfl) sign

/-- What a negative extent leaves of the other one: nothing, if the other one has an end. -/
theorem share_of_negative {a b : Single} (right : b.isNotANumber = false)
    (left : a.isNotANumber = false) (negative : a.lt nothing = true) :
    if b = infinite _ false then (a.max nothing * b.max nothing).isNotANumber = true
    else (a.max nothing * b.max nothing).isZero = true := by
  rw [max_nothing left, if_pos negative]
  split
  · next boundless =>
    rw [boundless]
    decide +kernel
  · next bounded => exact isZero_mul isZero_nothing (isFinite_max_nothing right bounded)

/-- A candidate without an area shares a zero with itself, whatever makes it so. -/
theorem isApart_self_of_isZero (zero : c.area.isZero = true) : c.isApart c = false := by
  obtain ⟨left, right⟩ := isFinite_of_isZero_mul zero
  have numberLeft := isNotANumber_of_isFinite left
  have numberRight := isNotANumber_of_isFinite right
  have bounded : ∀ {b : Single}, b.isFinite = true → b ≠ infinite _ false := by
    rintro b finite rfl
    exact absurd finite (by decide +kernel)
  have shared : (intersection c c).isZero = true := by
    rw [intersection_self]
    cases negative : c.width.lt nothing with
    | true =>
      have share := share_of_negative numberRight numberLeft negative
      rwa [if_neg (bounded right)] at share
    | false =>
      cases negative' : c.height.lt nothing with
      | true =>
        have share := share_of_negative numberLeft numberRight negative'
        rwa [if_neg (bounded left), Binary.mul_comm] at share
      | false =>
        rw [max_nothing numberLeft, max_nothing numberRight, negative, negative']
        exact zero
  rw [isApart_self, lt_threshold_of_isZero shared, (sub_of_isZero shared).2,
    isZero_add_self zero, Bool.not_true,
    Bool.and_false]

/-- A candidate with a negative extent shares nothing with itself, if that is a number. -/
theorem isApart_self_of_negative (number : c.area.isNotANumber = false)
    (some : c.area.isZero = false)
    (negative : c.width.lt nothing = true ∨ c.height.lt nothing = true) :
    c.isApart c = true ↔ c.width ≠ infinite _ false ∧ c.height ≠ infinite _ false := by
  obtain ⟨left, right, -, -⟩ := factors_of_number number
  have boundless : ∀ b : Single, b.lt nothing = true → b ≠ infinite _ false := by
    rintro b negative rfl
    exact absurd negative (by decide +kernel)
  have share : if c.width = infinite _ false ∨ c.height = infinite _ false then
      (intersection c c).isNotANumber = true else (intersection c c).isZero = true := by
    rw [intersection_self]
    rcases negative with negative | negative
    · simp only [boundless _ negative, false_or]
      exact share_of_negative right left negative
    · simp only [boundless _ negative, or_false]
      rw [Binary.mul_comm]
      exact share_of_negative left right negative
  rw [isApart_self, ← not_or]
  split at share
  · next infinite =>
    rw [lt_of_isNotANumber (isNotANumber_div_left share)]
    simp [infinite]
  · next bounded =>
    have sum := add_self_number number some
    rw [lt_threshold_of_isZero share, (sub_of_isZero share).1, (sub_of_isZero share).2, sum.1, sum.2]
    simp [bounded]

/-- A candidate with positive extents shares its area with itself, and is that share of the whole
unless the whole is infinite. -/
theorem isApart_self_of_positive (number : c.area.isNotANumber = false)
    (some : c.area.isZero = false) (width : c.width.lt nothing = false)
    (height : c.height.lt nothing = false) :
    c.isApart c = true ↔ c.area.isFinite = true ∧ (c.area + c.area).isInfinite = true := by
  obtain ⟨left, right, -, -⟩ := factors_of_number number
  have shared : intersection c c = c.area := by
    rw [intersection_self, max_nothing left, max_nothing right, width, height]
    rfl
  rw [isApart_self, shared]
  cases bounded : c.area.isInfinite with
  | true =>
    have noNumber : (c.area + c.area - c.area).isNotANumber = true := by
      rw [add_self_of_isInfinite bounded]
      exact isNotANumber_sub_self bounded
    rw [lt_of_isNotANumber (isNotANumber_div_right noNumber)]
    simp only [Bool.false_eq_true, false_iff, not_and, isFinite, decide_eq_true_eq]
    simp only [isInfinite, decide_eq_true_eq] at bounded
    omega
  | false =>
    have finite := isFinite_of_not_isInfinite number bounded
    have sum := add_self_number number some
    cases great : (c.area + c.area).isInfinite with
    | true =>
      obtain ⟨negative, quotient⟩ := div_of_isInfinite finite great
      rw [sub_of_isInfinite great finite, quotient, zero_lt_threshold]
      simp [finite]
    | false =>
      have sumFinite := isFinite_of_not_isInfinite sum.1 great
      have one : (ofInt Format.single 1).lt threshold = false := by decide +kernel
      rw [add_self_sub_self finite some sumFinite, div_self_eq_one finite some, one]
      simp

/-- A candidate stands for another object than itself exactly if it is reversed or vast. -/
theorem isApart_self_iff (c : Candidate) : c.isApart c = true ↔ c.IsReversed ∨ c.IsVast := by
  cases number : c.area.isNotANumber with
  | true =>
    rw [isApart_self_of_isNotANumber number]
    refine ⟨fun no => absurd no (by simp), ?_⟩
    rintro (reversed | vast)
    · exact absurd reversed.number (by simp [number])
    · exact absurd number (by simp [isNotANumber_of_isFinite vast.finite])
  | false =>
    cases some : c.area.isZero with
    | true =>
      rw [isApart_self_of_isZero some]
      refine ⟨fun no => absurd no (by simp), ?_⟩
      rintro (reversed | vast)
      · exact absurd some (by simp [reversed.some])
      · exact absurd (isZero_add_self some) (by simp [isZero_of_isInfinite vast.doubled])
    | false =>
      by_cases negative : c.width.lt nothing = true ∨ c.height.lt nothing = true
      · rw [isApart_self_of_negative number some negative]
        refine ⟨fun bounded => .inl ⟨number, some, negative, bounded⟩, ?_⟩
        rintro (reversed | vast)
        · exact reversed.bounded
        · rw [vast.notNegative.1, vast.notNegative.2] at negative
          simp at negative
      · simp only [not_or, Bool.not_eq_true] at negative
        rw [isApart_self_of_positive number some negative.1 negative.2]
        refine ⟨fun great => .inr ⟨negative, great.1, great.2⟩, ?_⟩
        rintro (reversed | vast)
        · have wrong := reversed.negative
          rw [negative.1, negative.2] at wrong
          simp at wrong
        · exact ⟨vast.finite, vast.doubled⟩

end

end FrameCourier.Candidate
