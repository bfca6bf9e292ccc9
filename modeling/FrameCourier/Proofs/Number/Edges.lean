import FrameCourier.Proofs.Number.Exact

/-!
# Zeros, infinities and what is no number

The results of arithmetic at the edges of a format: what a zero or an infinity does to a sum, a
product or a quotient, and when there is a number at all.
-/

namespace FrameCourier.Number.Binary

variable {a b : Single}

/-! ## Kinds of numbers -/

theorem isNotANumber_notANumber : (notANumber Format.single).isNotANumber = true := by
  decide +kernel

theorem isFinite_of_isZero (zero : a.isZero = true) : a.isFinite = true := by
  simp only [isZero, isFinite, decide_eq_true_eq] at *
  rw [zero]
  decide +kernel

theorem isNotANumber_of_isZero (zero : a.isZero = true) : a.isNotANumber = false :=
  isNotANumber_of_isFinite (isFinite_of_isZero zero)

theorem value_of_isZero (zero : a.isZero = true) : a.value = 0 :=
  (value_eq_zero_iff (isFinite_of_isZero zero)).mpr zero

theorem key_of_isZero (zero : a.isZero = true) : a.key = 0 := by
  simp only [isZero, decide_eq_true_eq] at zero
  simp [key, zero]

/-- A number is finite or one of the infinities. -/
theorem isFinite_of_not_isInfinite (number : a.isNotANumber = false)
    (bounded : a.isInfinite = false) : a.isFinite = true := by
  simp only [isNotANumber, isInfinite, isFinite, decide_eq_true_eq, decide_eq_false_iff_not] at *
  omega

theorem isZero_of_isInfinite (infinite : a.isInfinite = true) : a.isZero = false := by
  simp only [isZero, isInfinite, decide_eq_true_eq, decide_eq_false_iff_not] at *
  rw [infinite]
  decide +kernel

theorem isNotANumber_of_isInfinite (infinite : a.isInfinite = true) : a.isNotANumber = false := by
  simp only [isNotANumber, isInfinite, decide_eq_true_eq, decide_eq_false_iff_not] at *
  omega

theorem isZero_ofRat_zero (negativeZero : Bool) : (ofRat Format.single negativeZero 0).isZero := by
  simp [isZero, ofRat, nearestCode_zero]

/-! ## What is no number -/

theorem isNotANumber_add_left (noNumber : a.isNotANumber = true) :
    (a + b).isNotANumber = true := by
  show (add a b).isNotANumber = true
  rw [add, noNumber, Bool.true_or]
  exact isNotANumber_notANumber

theorem isNotANumber_mul_left (noNumber : a.isNotANumber = true) :
    (a * b).isNotANumber = true := by
  show (mul a b).isNotANumber = true
  simp only [mul, noNumber, Bool.true_or, if_true]
  exact isNotANumber_notANumber

theorem isNotANumber_div_left (noNumber : a.isNotANumber = true) :
    (a / b).isNotANumber = true := by
  show (div a b).isNotANumber = true
  simp only [div, noNumber, Bool.true_or, if_true]
  exact isNotANumber_notANumber

theorem isNotANumber_div_right (noNumber : b.isNotANumber = true) :
    (a / b).isNotANumber = true := by
  show (div a b).isNotANumber = true
  simp only [div, noNumber, Bool.or_true, if_true]
  exact isNotANumber_notANumber

theorem lt_iff :
    a.lt b = true ↔ a.isNotANumber = false ∧ b.isNotANumber = false ∧ a.key < b.key := by
  simp [lt, and_assoc]

theorem lt_of_isNotANumber (noNumber : a.isNotANumber = true) : a.lt b = false := by
  rw [lt, noNumber, Bool.not_true, Bool.false_and, Bool.false_and]

/-- Numbers of one code and one sign are one number. -/
theorem eq_of_isInfinite (left : a.isInfinite = true) (right : b.isInfinite = true)
    (sign : a.negative = b.negative) : a = b := by
  obtain ⟨negative, code, small⟩ := a
  obtain ⟨negative', code', small'⟩ := b
  simp only [isInfinite, decide_eq_true_eq] at left right
  cases sign
  cases left
  cases right
  rfl

/-- A number that is not zero lies on the side of zero that its sign tells. -/
theorem key_of_not_isZero (some : b.isZero = false) :
    (b.key < 0 ↔ b.negative = true) ∧ (0 < b.key ↔ b.negative = false) := by
  simp only [isZero, decide_eq_false_iff_not] at some
  unfold key
  split
  · next negative =>
    rw [negative]
    exact ⟨⟨fun _ => rfl, fun _ => by omega⟩, ⟨fun _ => by omega, fun no => by cases no⟩⟩
  · next positive =>
    rw [Bool.not_eq_true] at positive
    rw [positive]
    exact ⟨⟨fun _ => by omega, fun no => by cases no⟩, ⟨fun _ => rfl, fun _ => by omega⟩⟩

theorem min_self (b : Single) : b.min b = b := by
  simp [Binary.min]

theorem max_self (b : Single) : b.max b = b := by
  simp [Binary.max]

/-! ## Sums -/

theorem add_self_of_isInfinite (infinite : b.isInfinite = true) : b + b = b := by
  show add b b = b
  simp [add, isNotANumber_of_isInfinite infinite, infinite]

theorem isZero_add_self (zero : b.isZero = true) : (b + b).isZero = true := by
  rw [add_self (isFinite_of_isZero zero)]
  simp only [isZero, decide_eq_true_eq] at zero ⊢
  simp [zero, Format.doubled, Format.leading_pos]

/-- Twice a number that is not zero is such a number, though perhaps an infinity. -/
theorem add_self_number (number : b.isNotANumber = false) (some : b.isZero = false) :
    (b + b).isNotANumber = false ∧ (b + b).isZero = false := by
  cases bounded : b.isInfinite with
  | true =>
    rw [add_self_of_isInfinite bounded]
    exact ⟨number, some⟩
  | false =>
    have finite := isFinite_of_not_isInfinite number bounded
    have great := Format.single.le_doubled b.code
    have infinity : 0 < Format.single.infinityCode := by decide +kernel
    rw [add_self finite]
    simp only [isZero, isNotANumber, decide_eq_false_iff_not] at some ⊢
    omega

/-- Taking a zero away leaves something where there was something. -/
theorem sub_of_isZero (zero : b.isZero = true) :
    (a - b).isNotANumber = a.isNotANumber ∧ (a - b).isZero = a.isZero := by
  have zeroNeg : b.neg.isZero = true := zero
  show (add a b.neg).isNotANumber = _ ∧ (add a b.neg).isZero = _
  simp only [add, isNotANumber_of_isZero zeroNeg,
    isInfinite_of_isFinite (isFinite_of_isZero zeroNeg), Bool.or_false, Bool.false_and,
    Bool.false_eq_true, if_false, value_of_isZero zeroNeg, Rat.add_zero]
  cases number : a.isNotANumber
  · cases bounded : a.isInfinite
    · have finite := isFinite_of_not_isInfinite number bounded
      cases none : a.isZero
      · simp [ofRat_value finite none, number, none]
      · simp [value_of_isZero none, isZero_ofRat_zero, isNotANumber_of_isZero (isZero_ofRat_zero _)]
    · simp [number]
  · have none : a.isZero = false := by
      by_contra isZero
      rw [isNotANumber_of_isZero (by simpa using isZero)] at number
      cases number
    simp only [if_true, none]
    decide +kernel

theorem isNotANumber_sub_self (isInfinite : b.isInfinite = true) :
    (b - b).isNotANumber = true := by
  have same : b = infinite _ b.negative := eq_of_isInfinite isInfinite (decide_eq_true rfl) rfl
  rw [same]
  cases b.negative <;> decide +kernel

theorem sub_of_isInfinite (infinite : a.isInfinite = true) (finite : b.isFinite = true) :
    a - b = a := by
  have finiteNeg : b.neg.isFinite = true := finite
  show add a b.neg = a
  simp only [add, isNotANumber_of_isInfinite infinite, isNotANumber_of_isFinite finiteNeg,
    isInfinite_of_isFinite finiteNeg, infinite, Bool.or_self, Bool.false_and, Bool.false_eq_true,
    if_false, if_true]

/-! ## Products and quotients -/

protected theorem mul_comm (a b : Single) : a * b = b * a := by
  show mul a b = mul b a
  unfold mul
  rw [Bool.or_comm b.isNotANumber, Bool.or_comm b.isInfinite, Bool.or_comm b.isZero,
    Rat.mul_comm b.value, bne_comm]

theorem isNotANumber_mul_of_isInfinite (infinite : a.isInfinite = true) (zero : b.isZero = true) :
    (a * b).isNotANumber = true := by
  show (mul a b).isNotANumber = true
  simp only [mul, isNotANumber_of_isInfinite infinite, isNotANumber_of_isZero zero, infinite, zero,
    Bool.or_self, Bool.true_or, Bool.or_true, Bool.false_eq_true, if_false, if_true]
  exact isNotANumber_notANumber

theorem left_of_number (number : (a * b).isNotANumber = false) :
    a.isNotANumber = false ∧ (a.isInfinite = true → b.isZero = false) := by
  refine ⟨Bool.eq_false_iff.mpr fun noNumber => ?_,
    fun infinite => Bool.eq_false_iff.mpr fun zero => ?_⟩
  · rw [isNotANumber_mul_left noNumber] at number
    cases number
  · rw [isNotANumber_mul_of_isInfinite infinite zero] at number
    cases number

/-- Factors of a number are numbers, and no infinity is multiplied by a zero. -/
theorem factors_of_number (number : (a * b).isNotANumber = false) :
    a.isNotANumber = false ∧ b.isNotANumber = false ∧
      (a.isInfinite = true → b.isZero = false) ∧ (b.isInfinite = true → a.isZero = false) := by
  obtain ⟨left, infiniteLeft⟩ := left_of_number number
  rw [Binary.mul_comm] at number
  obtain ⟨right, infiniteRight⟩ := left_of_number number
  exact ⟨left, right, infiniteLeft, infiniteRight⟩

theorem isZero_mul (zero : a.isZero = true) (finite : b.isFinite = true) :
    (a * b).isZero = true := by
  show (mul a b).isZero = true
  simp only [mul, isNotANumber_of_isZero zero, isNotANumber_of_isFinite finite,
    isInfinite_of_isFinite (isFinite_of_isZero zero), isInfinite_of_isFinite finite, Bool.or_self,
    Bool.false_eq_true, if_false, value_of_isZero zero, Rat.zero_mul]
  exact isZero_ofRat_zero _

theorem isInfinite_mul (number : (a * b).isNotANumber = false) (infinite : a.isInfinite = true) :
    (a * b).isInfinite = true := by
  obtain ⟨left, right, some, _⟩ := factors_of_number number
  show (mul a b).isInfinite = true
  simp only [mul, left, right, infinite, some infinite, isZero_of_isInfinite infinite, Bool.or_self,
    Bool.true_or, Bool.false_eq_true, if_false, if_true]
  exact decide_eq_true rfl

theorem isFinite_left_of_isZero_mul (zero : (a * b).isZero = true) : a.isFinite = true := by
  have number := isNotANumber_of_isZero zero
  refine isFinite_of_not_isInfinite (factors_of_number number).1 (Bool.eq_false_iff.mpr ?_)
  intro infinite
  rw [isZero_of_isInfinite (isInfinite_mul number infinite)] at zero
  cases zero

/-- Factors of a zero are finite. -/
theorem isFinite_of_isZero_mul (zero : (a * b).isZero = true) :
    a.isFinite = true ∧ b.isFinite = true :=
  ⟨isFinite_left_of_isZero_mul zero,
    isFinite_left_of_isZero_mul ((Binary.mul_comm a b).symm ▸ zero)⟩

theorem div_of_isInfinite (finite : a.isFinite = true) (infinite : b.isInfinite = true) :
    ∃ negative, a / b = zero _ negative := by
  refine ⟨a.negative != b.negative, ?_⟩
  show div a b = _
  simp only [div, isNotANumber_of_isFinite finite, isNotANumber_of_isInfinite infinite,
    isInfinite_of_isFinite finite, infinite, Bool.or_self, Bool.false_eq_true, if_false, if_true]

end FrameCourier.Number.Binary
