import FrameCourier.Proofs.Number.Edges

/-!
# Numbers that are alike

The lesser and the greater of two numbers depend on their order only in the sign of a zero, and
in which of two not-a-numbers is meant.  Sums and products keep numbers alike; a quotient by a
zero need not.
-/

namespace FrameCourier.Number.Binary

/-- Two numbers that differ at most in the sign of a zero, or both are no numbers. -/
inductive Alike : Single → Single → Prop where
  | same (a : Single) : Alike a a
  | zeros {a b : Single} (left : a.isZero = true) (right : b.isZero = true) : Alike a b
  | noNumbers {a b : Single} (left : a.isNotANumber = true) (right : b.isNotANumber = true) :
    Alike a b

variable {a b c d : Single}

/-! ## Sums in either order -/

protected theorem add_comm (a b : Single) : a + b = b + a := by
  show add a b = add b a
  unfold add
  rw [Bool.or_comm b.isNotANumber, Bool.and_comm b.negative, Rat.add_comm b.value]
  split
  · rfl
  · by_cases left : a.isInfinite = true <;> by_cases right : b.isInfinite = true
    · cases signs : a.negative != b.negative with
      | true =>
        have signs' : (b.negative != a.negative) = true := by rw [bne_comm, signs]
        simp [left, right, signs']
      | false =>
        have signs' : (b.negative != a.negative) = false := by rw [bne_comm, signs]
        simp only [left, right, signs', if_true, Bool.and_false, Bool.false_eq_true,
          if_false]
        exact eq_of_isInfinite left right (by simpa using signs)
    · simp [left, right]
    · simp [left, right]
    · simp [left, right]

/-! ## Operations on numbers that are alike -/

namespace Alike

theorem add_right (alike : Alike a b) (c : Single) : Alike (a + c) (b + c) := by
  cases alike with
  | same => exact .same _
  | noNumbers left right =>
    exact .noNumbers (isNotANumber_add_left left) (isNotANumber_add_left right)
  | zeros left right =>
    show Alike (add a c) (add b c)
    simp only [add, isNotANumber_of_isZero left, isNotANumber_of_isZero right,
      isInfinite_of_isFinite (isFinite_of_isZero left),
      isInfinite_of_isFinite (isFinite_of_isZero right), Bool.false_or, Bool.false_eq_true,
      if_false, value_of_isZero left, value_of_isZero right, Rat.zero_add]
    split
    · exact .same _
    split
    · exact .same _
    · next number bounded =>
      have finite := isFinite_of_not_isInfinite (by simpa using number) (by simpa using bounded)
      rcases Bool.eq_false_or_eq_true c.isZero with zero | some
      · rw [value_of_isZero zero]
        exact .zeros (isZero_ofRat_zero _) (isZero_ofRat_zero _)
      · rw [ofRat_value finite some, ofRat_value finite some]
        exact .same _

theorem trans (first : Alike a b) (second : Alike b c) : Alike a c := by
  cases first with
  | same => exact second
  | zeros left right =>
    cases second with
    | same => exact .zeros left right
    | zeros _ right' => exact .zeros left right'
    | noNumbers left' _ =>
      rw [isNotANumber_of_isZero right] at left'
      cases left'
  | noNumbers left right =>
    cases second with
    | same => exact .noNumbers left right
    | noNumbers _ right' => exact .noNumbers left right'
    | zeros left' _ =>
      rw [isNotANumber_of_isZero left'] at right
      cases right

theorem add (left : Alike a b) (right : Alike c d) : Alike (a + c) (b + d) := by
  refine (left.add_right c).trans ?_
  rw [Binary.add_comm b c, Binary.add_comm b d]
  exact right.add_right b

theorem neg (alike : Alike a b) : Alike a.neg b.neg := by
  cases alike with
  | same => exact .same _
  | zeros left right => exact .zeros left right
  | noNumbers left right => exact .noNumbers left right

theorem sub (left : Alike a b) (right : Alike c d) : Alike (a - c) (b - d) :=
  left.add right.neg

theorem mul_right (alike : Alike a b) (c : Single) : Alike (a * c) (b * c) := by
  cases alike with
  | same => exact .same _
  | noNumbers left right =>
    exact .noNumbers (isNotANumber_mul_left left) (isNotANumber_mul_left right)
  | zeros left right =>
    show Alike (Binary.mul a c) (Binary.mul b c)
    simp only [Binary.mul, isNotANumber_of_isZero left, isNotANumber_of_isZero right,
      isInfinite_of_isFinite (isFinite_of_isZero left),
      isInfinite_of_isFinite (isFinite_of_isZero right), left, right, Bool.false_or, Bool.true_or,
      if_true, value_of_isZero left, value_of_isZero right, Rat.zero_mul]
    split
    · exact .same _
    split
    · exact .same _
    · exact .zeros (isZero_ofRat_zero _) (isZero_ofRat_zero _)

theorem mul (left : Alike a b) (right : Alike c d) : Alike (a * c) (b * d) := by
  refine (left.mul_right c).trans ?_
  rw [Binary.mul_comm b c, Binary.mul_comm b d]
  exact right.mul_right b

theorem max_right (alike : Alike a b) (c : Single) : Alike (a.max c) (b.max c) := by
  cases alike with
  | same => exact .same _
  | noNumbers left right =>
    rw [Binary.max, if_pos left, Binary.max, if_pos right]
    exact .same _
  | zeros left right =>
    have keys : a.lt c = b.lt c := by
      simp only [lt, isNotANumber_of_isZero left, isNotANumber_of_isZero right,
        key_of_isZero left, key_of_isZero right]
    simp only [Binary.max, isNotANumber_of_isZero left, isNotANumber_of_isZero right,
      Bool.false_eq_true, if_false, keys]
    split
    · exact .zeros left right
    split
    · exact .same _
    · exact .zeros left right

/-- Numbers of which neither is less are alike. -/
theorem of_not_lt (left : a.isNotANumber = false) (right : b.isNotANumber = false)
    (notLess : a.lt b = false) (notGreater : b.lt a = false) : Alike a b := by
  obtain ⟨negative, code, small⟩ := a
  obtain ⟨negative', code', small'⟩ := b
  simp only [lt, left, right, Bool.not_false, Bool.true_and, decide_eq_false_iff_not,
    key] at notLess notGreater
  cases negative <;> cases negative' <;>
    simp only [Bool.false_eq_true, if_false, if_true] at notLess notGreater
  · obtain rfl : code = code' := by omega
    exact .same _
  · exact .zeros (by simp only [isZero, decide_eq_true_eq]; omega)
      (by simp only [isZero, decide_eq_true_eq]; omega)
  · exact .zeros (by simp only [isZero, decide_eq_true_eq]; omega)
      (by simp only [isZero, decide_eq_true_eq]; omega)
  · obtain rfl : code = code' := by omega
    exact .same _

end Alike

/-- Of two numbers one is less, or they are alike. -/
theorem lt_or_gt_or_alike (left : a.isNotANumber = false) (right : b.isNotANumber = false) :
    a.lt b = true ∧ b.lt a = false ∨ a.lt b = false ∧ b.lt a = true ∨
      a.lt b = false ∧ b.lt a = false ∧ Alike a b := by
  cases less : a.lt b with
  | true =>
    refine .inl ⟨rfl, ?_⟩
    simp only [lt, left, right, Bool.not_false, Bool.true_and, decide_eq_true_eq,
      decide_eq_false_iff_not] at less ⊢
    omega
  | false =>
    cases greater : b.lt a with
    | true => exact .inr (.inl ⟨rfl, rfl⟩)
    | false => exact .inr (.inr ⟨rfl, rfl, .of_not_lt left right less greater⟩)

theorem alike_max_comm (a b : Single) : Alike (a.max b) (b.max a) := by
  unfold Binary.max
  cases left : a.isNotANumber <;> cases right : b.isNotANumber <;>
    simp only [Bool.false_eq_true, if_false, if_true]
  · rcases lt_or_gt_or_alike left right with ⟨less, greater⟩ | ⟨less, greater⟩ | ⟨less, greater, alike⟩ <;>
      simp only [less, greater, Bool.false_eq_true, if_false, if_true]
    exacts [.same _, .same _, alike]
  · exact .same _
  · exact .same _
  · exact .noNumbers right left

theorem alike_min_comm (a b : Single) : Alike (a.min b) (b.min a) := by
  unfold Binary.min
  cases left : a.isNotANumber <;> cases right : b.isNotANumber <;>
    simp only [Bool.false_eq_true, if_false, if_true]
  · rcases lt_or_gt_or_alike left right with ⟨less, greater⟩ | ⟨less, greater⟩ | ⟨less, greater, alike⟩ <;>
      simp only [less, greater, Bool.false_eq_true, if_false, if_true]
    exacts [.same _, .same _, alike]
  · exact .same _
  · exact .same _
  · exact .noNumbers right left

end FrameCourier.Number.Binary
