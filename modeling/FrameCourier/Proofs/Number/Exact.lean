import FrameCourier.Proofs.Number.Range

/-!
# Exact results

The rational of a code is rounded to that code, and so is twice the rational of a code, unless it
is beyond the greatest finite number.  So a number that is added to itself can be taken away
again, and a number divided by itself is one.
-/

namespace FrameCourier.Number

theorem floorLog2_eq {x : Rat} {e : Int} (low : (2 : Rat) ^ e ≤ x) (high : x < 2 ^ (e + 1)) :
    floorLog2 x = e := by
  obtain ⟨below, above⟩ := floorLog2_spec ((two_zpow_pos e).trans_le low)
  have first := (zpow_lt_zpow_iff_right₀ (by decide : (1 : Rat) < 2)).mp (below.trans_lt high)
  have second := (zpow_lt_zpow_iff_right₀ (by decide : (1 : Rat) < 2)).mp (low.trans_lt above)
  omega

namespace Format

variable {F : Format}

/-- A whole number of units is that number of them. -/
theorem unitCount_of_unitExponent {n : Nat} {e : Int}
    (unit : F.unitExponent ((n : Rat) * 2 ^ e) = e) : F.unitCount ((n : Rat) * 2 ^ e) = n := by
  have quotient : (n : Rat) * 2 ^ e / 2 ^ e = ((n : Int) : Rat) := by
    rw [mul_div_cancel_right₀ _ (two_zpow_pos e).ne']
    exact (Int.cast_natCast n).symm
  rw [unitCount, unit, quotient, roundHalfEven_intCast, Int.toNat_natCast]

/-- In the least binade the unit is the least one, above it the significand has full length. -/
theorem unitExponent_of_lt {n : Nat} (some : 0 < n) (small : n < F.leading) :
    F.unitExponent ((n : Rat) * 2 ^ F.leastExponent) = F.leastExponent := by
  have positive : (0 : Rat) < n := by exact_mod_cast some
  have below := (floorLog2_spec (mul_pos positive (two_zpow_pos F.leastExponent))).1
  have bound : (n : Rat) * 2 ^ F.leastExponent < 2 ^ ((F.fractionBits : Int) + F.leastExponent) := by
    rw [two_zpow_add, ← leading_eq]
    exact mul_lt_mul_of_pos_right (by exact_mod_cast small) (two_zpow_pos _)
  have exponents := (zpow_lt_zpow_iff_right₀ (by decide : (1 : Rat) < 2)).mp (below.trans_lt bound)
  unfold unitExponent
  omega

theorem unitExponent_of_le {n : Nat} {e : Int} (least : F.leastExponent ≤ e) (long : F.leading ≤ n)
    (bound : n < 2 * F.leading) : F.unitExponent ((n : Rat) * 2 ^ e) = e := by
  have low : (2 : Rat) ^ ((F.fractionBits : Int) + e) ≤ n * 2 ^ e := by
    rw [two_zpow_add, ← leading_eq]
    exact mul_le_mul_of_nonneg_right (by exact_mod_cast long) (two_zpow_pos _).le
  have high : (n : Rat) * 2 ^ e < 2 ^ ((F.fractionBits : Int) + e + 1) := by
    rw [Int.add_right_comm, two_zpow_add, two_zpow_add, zpow_one, ← leading_eq]
    exact mul_lt_mul_of_pos_right (by rw [mul_comm]; exact_mod_cast bound) (two_zpow_pos _)
  rw [unitExponent, floorLog2_eq low high]
  omega

theorem magnitude_pos {code : Nat} (some : 0 < code) : 0 < F.magnitude code := by
  unfold magnitude
  refine mul_pos ?_ (two_zpow_pos _)
  have significand : 0 < F.significand code := by
    unfold significand
    split
    · exact some
    · exact Nat.add_pos_left F.leading_pos _
  exact_mod_cast significand

/-- What a code stands for is rounded to that code. -/
theorem nearestCode_magnitude (code : Nat) :
    F.nearestCode (F.magnitude code) = min F.infinityCode code := by
  rcases Nat.eq_zero_or_pos code with rfl | some
  · rw [Binary.magnitude_zero, Binary.nearestCode_zero, Nat.min_zero]
  · have positive := magnitude_pos (F := F) some
    have inside := Nat.mod_lt code F.leading_pos
    have split : code / F.leading * F.leading + code % F.leading = code := Nat.div_add_mod' _ _
    generalize code / F.leading = binade at split
    generalize code % F.leading = place at split inside
    subst split
    rw [nearestCode_of_pos positive, magnitude_eq binade inside]
    cases binade with
    | zero =>
      have unit := unitExponent_of_lt (by simpa using some) inside
      simp only [if_pos, Nat.zero_sub, Int.natCast_zero, Int.add_zero, unit,
        unitCount_of_unitExponent unit, Int.sub_self, Int.toNat_zero]
    | succ binade =>
      have unit : F.unitExponent (((F.leading + place : Nat) : Rat) *
          2 ^ (F.leastExponent + (binade : Int))) = F.leastExponent + binade :=
        unitExponent_of_le (by omega) (by omega) (by omega)
      rw [if_neg (Nat.succ_ne_zero _), Nat.add_sub_cancel, unitCount_of_unitExponent unit, unit,
        add_sub_cancel_left, Int.toNat_natCast, Nat.add_mul, Nat.one_mul, Nat.add_assoc]

/-- The code of twice what a code stands for. -/
def doubled (F : Format) (code : Nat) : Nat :=
  if code < F.leading then 2 * code else code + F.leading

theorem le_doubled (code : Nat) : code ≤ F.doubled code := by
  unfold doubled
  split <;> omega

theorem magnitude_doubled (code : Nat) : F.magnitude (F.doubled code) = 2 * F.magnitude code := by
  have inside := Nat.mod_lt code F.leading_pos
  have split : code / F.leading * F.leading + code % F.leading = code := Nat.div_add_mod' _ _
  generalize code / F.leading = binade at split
  generalize code % F.leading = place at split inside
  subst split
  rw [magnitude_eq binade inside]
  cases binade with
  | zero =>
    -- Twice a number of the least binade may be in the next one, which has the same unit.
    have small : 0 * F.leading + place < F.leading := by omega
    rw [doubled, if_pos small, Nat.zero_mul, Nat.zero_add]
    by_cases stays : 2 * place < F.leading
    · have here := magnitude_eq (F := F) 0 stays
      rw [Nat.zero_mul, Nat.zero_add] at here
      rw [here]
      push_cast
      ring
    · have inside' : 2 * place - F.leading < F.leading := by omega
      have here := magnitude_eq 1 inside'
      rw [Nat.one_mul, Nat.add_sub_cancel' (by omega : F.leading ≤ 2 * place)] at here
      rw [here]
      push_cast
      ring
  | succ binade =>
    have large : ¬ (binade + 1) * F.leading + place < F.leading := by
      rw [Nat.add_mul, Nat.one_mul]
      omega
    have next : (binade + 1) * F.leading + place + F.leading =
        (binade + 1 + 1) * F.leading + place := by
      rw [Nat.add_mul (binade + 1), Nat.one_mul, Nat.add_right_comm]
    rw [doubled, if_neg large, next, magnitude_eq (binade + 1 + 1) inside,
      if_neg (Nat.succ_ne_zero _), if_neg (Nat.succ_ne_zero _), Nat.add_sub_cancel,
      Nat.add_sub_cancel, Int.natCast_succ, ← Int.add_assoc, two_zpow_add, zpow_one]
    ring

end Format

namespace Binary

variable {F : Format} {b : Binary F}

theorem value_of_isFinite (finite : b.isFinite = true) :
    b.value = if b.negative then -F.magnitude b.code else F.magnitude b.code := by
  have small : b.code < F.infinityCode := by simpa [isFinite] using finite
  rw [value, if_neg (by omega)]

theorem isNotANumber_of_isFinite (finite : b.isFinite = true) : b.isNotANumber = false := by
  simp only [isFinite, isNotANumber, decide_eq_true_eq, decide_eq_false_iff_not] at *
  omega

theorem isInfinite_of_isFinite (finite : b.isFinite = true) : b.isInfinite = false := by
  simp only [isFinite, isInfinite, decide_eq_true_eq, decide_eq_false_iff_not] at *
  omega

theorem value_eq_zero_iff (finite : b.isFinite = true) : b.value = 0 ↔ b.isZero = true := by
  rw [value_of_isFinite finite, isZero, decide_eq_true_eq]
  constructor
  · intro zero
    by_contra some
    have positive := Format.magnitude_pos (F := F) (Nat.pos_of_ne_zero some)
    split at zero <;> linarith
  · intro zero
    rw [zero, magnitude_zero, neg_zero, ite_self]

/-- The value of a number of the given sign is rounded to its magnitude. -/
theorem ofRat_signed {negative negativeZero : Bool} {x : Rat} (some : 0 < x) :
    ofRat F negativeZero (if negative then -x else x) =
      ⟨negative, F.nearestCode x, F.nearestCode_lt_codes _⟩ := by
  cases negative with
  | true => simp [ofRat, some, some.ne']
  | false => simp [ofRat, some.not_gt, some.ne']

/-- A finite number is the one nearest to its value. -/
theorem ofRat_value (finite : b.isFinite = true) (some : b.isZero = false)
    (negativeZero : Bool) : ofRat F negativeZero b.value = b := by
  have small : b.code < F.infinityCode := by simpa [isFinite] using finite
  have positive : 0 < F.magnitude b.code :=
    Format.magnitude_pos (Nat.pos_of_ne_zero (by simpa [isZero] using some))
  rw [value_of_isFinite finite, ofRat_signed positive]
  simp only [Format.nearestCode_magnitude, Nat.min_eq_right small.le]

/-- A finite number and itself are twice the number, or infinite if that is too great. -/
theorem add_self (finite : b.isFinite = true) :
    b + b = ⟨b.negative, Min.min F.infinityCode (F.doubled b.code),
      Nat.lt_of_le_of_lt (Nat.min_le_left _ _) F.infinityCode_lt_codes⟩ := by
  have sum : b + b = ofRat F (b.negative && b.negative) (b.value + b.value) := by
    show Binary.add b b = _
    simp only [add, isNotANumber_of_isFinite finite, isInfinite_of_isFinite finite, Bool.or_self,
      Bool.false_eq_true, if_false]
  rw [sum, Bool.and_self]
  rcases Bool.eq_false_or_eq_true b.isZero with zero | some
  · rw [(value_eq_zero_iff finite).mpr zero]
    rw [isZero, decide_eq_true_eq] at zero
    simp [ofRat, zero, Format.doubled, Format.leading_pos, nearestCode_zero]
  · have positive : 0 < F.magnitude b.code :=
      Format.magnitude_pos (Nat.pos_of_ne_zero (by simpa [isZero] using some))
    have twice : b.value + b.value =
        if b.negative then -F.magnitude (F.doubled b.code) else F.magnitude (F.doubled b.code) := by
      rw [value_of_isFinite finite, Format.magnitude_doubled]
      split <;> ring
    rw [twice, ofRat_signed (by rw [Format.magnitude_doubled]; linarith)]
    simp only [Format.nearestCode_magnitude]

theorem value_neg (finite : b.isFinite = true) : b.neg.value = -b.value := by
  have finiteNeg : b.neg.isFinite = true := finite
  rw [value_of_isFinite finite, value_of_isFinite finiteNeg]
  cases negative : b.negative <;> simp [neg, negative]

/-- What was added can be taken away again. -/
theorem add_self_sub_self (finite : b.isFinite = true) (some : b.isZero = false)
    (sumFinite : (b + b).isFinite = true) : b + b - b = b := by
  have small : F.doubled b.code < F.infinityCode := by
    rw [add_self finite] at sumFinite
    simp only [isFinite, decide_eq_true_eq] at sumFinite
    omega
  have twice : (b + b).value = b.value + b.value := by
    rw [value_of_isFinite sumFinite, value_of_isFinite finite, add_self finite]
    simp only [Nat.min_eq_right small.le, Format.magnitude_doubled]
    split <;> ring
  have finiteNeg : b.neg.isFinite = true := finite
  show Binary.add (b + b) b.neg = b
  simp only [add, isNotANumber_of_isFinite sumFinite, isInfinite_of_isFinite sumFinite,
    isNotANumber_of_isFinite finiteNeg, isInfinite_of_isFinite finiteNeg, Bool.or_self,
    Bool.false_eq_true, if_false, value_neg finite, twice, add_neg_cancel_right]
  exact ofRat_value finite some _

/-- A number is once itself. -/
theorem div_self_eq_one (finite : b.isFinite = true) (some : b.isZero = false) :
    b / b = ofInt F 1 := by
  have value : b.value ≠ 0 := fun zero => by
    rw [value_eq_zero_iff finite, some] at zero
    cases zero
  show Binary.div b b = _
  simp only [div, isNotANumber_of_isFinite finite, isInfinite_of_isFinite finite, some,
    Bool.or_self, Bool.false_eq_true, if_false, div_self value, ofInt, bne_self_eq_false]
  rfl

end Binary

end FrameCourier.Number
