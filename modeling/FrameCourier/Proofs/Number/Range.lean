import FrameCourier.Proofs.Number.Rounding

/-!
# Numbers from zero up to a code

Conversion, products and rounding to integers keep a number in a range that starts at zero: its
end is rounded like the number itself.  No number of such a range is negative, but zero can have
a sign.
-/

namespace FrameCourier.Number.Binary

variable {F : Format}

/-- A number from zero to that of a code, which is not negative unless it is zero. -/
structure IsWithin (b : Binary F) (greatest : Nat) : Prop where
  bound : b.code ≤ greatest
  sign : b.negative = true → b.code = 0

theorem magnitude_zero : F.magnitude 0 = 0 := by
  have first := Format.magnitude_eq (F := F) 0 F.leading_pos
  simpa using first

theorem nearestCode_zero : F.nearestCode 0 = 0 := by
  unfold Format.nearestCode
  rw [if_pos (le_refl _)]

/-- Rounding a rational from zero to `x`. -/
theorem isWithin_ofRat {negativeZero : Bool} {q x : Rat} (low : 0 ≤ q) (high : q ≤ x) :
    (ofRat F negativeZero q).IsWithin (F.nearestCode x) := by
  have notNegative : ¬ q < 0 := not_lt.mpr low
  constructor
  · simp only [ofRat, if_neg notNegative]
    exact Format.nearestCode_mono high
  · intro negative
    by_cases zero : q = 0
    · simp [ofRat, zero, nearestCode_zero]
    · simp [ofRat, zero, notNegative] at negative

theorem key_le_of_not_lt {b c : Binary F} (numberB : b.isNotANumber = false)
    (numberC : c.isNotANumber = false) (notLess : ¬ b.lt c = true) : c.key ≤ b.key := by
  simpa [lt, numberB, numberC] using notLess

/-- Cutting a number to the range gives one in the range. -/
theorem isWithin_clamp {b high : Binary F} (number : b.isNotANumber = false)
    (highNumber : high.isNotANumber = false) (highPositive : high.negative = false) :
    (b.clamp (zero F false) high).IsWithin high.code := by
  have zeroNumber : (zero F false).isNotANumber = false := by
    simp [isNotANumber, zero]
  unfold clamp
  split
  · exact ⟨Nat.zero_le _, fun _ => rfl⟩
  · next notBelow =>
    split
    · exact ⟨le_refl _, fun negative => absurd negative (by simp [highPositive])⟩
    · next notAbove =>
      have low : 0 ≤ b.key := key_le_of_not_lt number zeroNumber notBelow
      have top : b.key ≤ high.code := by
        have below := key_le_of_not_lt highNumber number notAbove
        rwa [show high.key = high.code by simp [key, highPositive]] at below
      by_cases negative : b.negative = true
      · rw [key, if_pos negative] at low
        exact ⟨by omega, fun _ => by omega⟩
      · rw [key, if_neg negative] at top
        exact ⟨by omega, fun isNegative => absurd isNegative negative⟩

namespace IsWithin

variable {b : Binary F} {greatest : Nat} (within : b.IsWithin greatest)
  (finite : greatest < F.infinityCode)

include within finite

theorem value_eq : b.value = F.magnitude b.code := by
  have notInfinite : ¬ F.infinityCode ≤ b.code := by
    have bound := within.bound
    omega
  unfold value
  rw [if_neg notInfinite]
  split
  · next negative => rw [within.sign negative, magnitude_zero, neg_zero]
  · rfl

theorem value_nonneg : 0 ≤ b.value := by
  rw [within.value_eq finite]
  exact Format.magnitude_nonneg _

theorem value_le : b.value ≤ F.magnitude greatest := by
  rw [within.value_eq finite]
  exact Format.magnitude_mono within.bound

theorem isNotANumber_eq : b.isNotANumber = false := by
  have bound := within.bound
  simp only [isNotANumber, decide_eq_false_iff_not]
  omega

theorem isInfinite_eq : b.isInfinite = false := by
  have bound := within.bound
  simp only [isInfinite, decide_eq_false_iff_not]
  omega

theorem isFinite_eq : b.isFinite = true := by
  have bound := within.bound
  simp only [isFinite, decide_eq_true_eq]
  omega

/-- Another format rounds it to a number in the same range. -/
theorem convert (G : Format) :
    (b.convert G).IsWithin (G.nearestCode (F.magnitude greatest)) := by
  unfold Binary.convert
  rw [within.isNotANumber_eq finite, within.isInfinite_eq finite]
  exact isWithin_ofRat (within.value_nonneg finite) (within.value_le finite)

/-- So does a product with a finite positive number. -/
theorem mul {c : Binary F} (number : c.isNotANumber = false) (notInfinite : c.isInfinite = false)
    (positive : 0 ≤ c.value) :
    (b * c).IsWithin (F.nearestCode (F.magnitude greatest * c.value)) := by
  show (Binary.mul b c).IsWithin _
  unfold Binary.mul
  rw [within.isNotANumber_eq finite, within.isInfinite_eq finite, number, notInfinite]
  exact isWithin_ofRat (mul_nonneg (within.value_nonneg finite) positive)
    (mul_le_mul_of_nonneg_right (within.value_le finite) positive)

/-- Cut to the integers from zero on, it is its whole part or the last one of them. -/
theorem toIntWithin {high : Int} (some : 0 ≤ high) :
    b.toIntWithin 0 high = Min.min high (F.magnitude b.code).floor := by
  have atZero : (0 : Rat).floor = 0 := by decide +kernel
  have low : 0 ≤ (F.magnitude b.code).floor := by
    rw [← atZero]
    exact Rat.floor_monotone (Format.magnitude_nonneg _)
  have numbers := within.isNotANumber_eq finite
  have bounded := within.isInfinite_eq finite
  by_cases negative : b.negative = true
  · have zero : (F.magnitude b.code).floor = 0 := by
      rw [within.sign negative, magnitude_zero, atZero]
    simp only [Binary.toIntWithin, numbers, bounded, zero, negative, Bool.false_eq_true, if_false,
      if_true]
    omega
  · simp only [Binary.toIntWithin, numbers, bounded, negative, Bool.false_eq_true, if_false]
    omega

/-- Rounded to an integer, it is one from zero on, or a negative zero. -/
theorem round :
    (∃ n : Nat, (n : Int) ≤ roundHalfUp (F.magnitude greatest) ∧ b.round = ofInt F n) ∨
      b.round = zero F true := by
  have low : 0 ≤ roundHalfUp (F.magnitude b.code) := by
    have atZero : roundHalfUp 0 = 0 := by decide +kernel
    rw [← atZero]
    exact roundHalfUp_mono (Format.magnitude_nonneg _)
  have high := roundHalfUp_mono (Format.magnitude_mono (F := F) within.bound)
  unfold Binary.round
  rw [if_pos (within.isFinite_eq finite)]
  by_cases negative : b.negative = true
  · right
    have atZero : roundHalfUp 0 = 0 := by decide +kernel
    rw [negative, within.sign negative, magnitude_zero, atZero]
    simp [ofRat, zero, nearestCode_zero]
  · left
    refine ⟨(roundHalfUp (F.magnitude b.code)).toNat, by omega, ?_⟩
    rw [Bool.not_eq_true] at negative
    rw [negative, Int.toNat_of_nonneg low]
    rfl

end IsWithin

end FrameCourier.Number.Binary
