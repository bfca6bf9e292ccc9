import FrameCourier.Proofs.Number.Exact

/-!
# Whole numbers in a binary format

A rational is rounded to a number of units.  For a natural number the unit is a whole number or a
whole part of one, so it is rounded to a natural number again, and to itself as long as it has no
more bits than a significand.  A longer one can be rounded to a greater number.
-/

namespace FrameCourier.Number

namespace Format

variable {F : Format}

/-- The magnitude of a code by the units that it counts: a whole binade of them at least, unless
they are the least ones. -/
theorem magnitude_units {binades count : Nat} (bound : count ≤ 2 * F.leading)
    (long : binades = 0 ∨ F.leading ≤ count) :
    F.magnitude (binades * F.leading + count) =
      (count : Rat) * 2 ^ (F.leastExponent + (binades : Int)) := by
  have positive := F.leading_pos
  by_cases short : count < F.leading
  · have least : binades = 0 := by omega
    subst least
    rw [magnitude_eq 0 short]
    simp
  · by_cases full : count = 2 * F.leading
    · -- Two binades of units are the first code of the binade after the next one.
      have place : binades * F.leading + count = (binades + 2) * F.leading + 0 := by
        rw [full, Nat.add_mul, Nat.add_zero]
      rw [place, magnitude_eq _ positive, if_neg (by omega), full]
      have exponent : F.leastExponent + ((binades + 2 - 1 : Nat) : Int) =
          F.leastExponent + (binades : Int) + 1 := by omega
      rw [exponent, two_zpow_add, zpow_one]
      push_cast
      ring
    · have inside : count - F.leading < F.leading := by omega
      have place : binades * F.leading + count =
          (binades + 1) * F.leading + (count - F.leading) := by
        rw [Nat.add_mul, Nat.one_mul]
        omega
      rw [place, magnitude_eq _ inside, if_neg (by omega), Nat.add_sub_cancel,
        Nat.add_sub_cancel' (by omega)]

/-- A rational below infinity is rounded to the units that are counted for it. -/
theorem magnitude_nearestCode {x : Rat} (positive : 0 < x)
    (finite : F.nearestCode x < F.infinityCode) :
    F.magnitude (F.nearestCode x) = F.unitCount x * 2 ^ F.unitExponent x := by
  have least : F.leastExponent ≤ F.unitExponent x := le_max_left _ _
  have long : (F.unitExponent x - F.leastExponent).toNat = 0 ∨ F.leading ≤ F.unitCount x := by
    by_cases above : F.leastExponent < F.unitExponent x
    · exact .inr (leading_le_unitCount positive above)
    · exact .inl (by omega)
  have code := nearestCode_of_pos (F := F) positive
  have exponent : F.leastExponent + ((F.unitExponent x - F.leastExponent).toNat : Int) =
      F.unitExponent x := by omega
  rw [code, Nat.min_eq_right (by omega), magnitude_units (unitCount_le positive) long, exponent]

variable {n : Nat}

/-- Units of which one is a whole number of them are counted exactly. -/
theorem unitCount_natCast (unit : F.unitExponent n ≤ 0) :
    (F.unitCount n : Rat) * 2 ^ F.unitExponent n = n := by
  have whole : ((n * 2 ^ (-F.unitExponent n).toNat : Nat) : Rat) * 2 ^ F.unitExponent n = n := by
    have exponent : ((-F.unitExponent n).toNat : Int) = -F.unitExponent n := by omega
    push_cast
    rw [← zpow_natCast, exponent, mul_assoc, ← two_zpow_add, Int.add_left_neg, zpow_zero, mul_one]
  have count := unitCount_of_unitExponent (F := F) (congrArg F.unitExponent whole)
  rw [whole] at count
  rw [count, whole]

/-- A natural number of no more bits than a significand is rounded to itself. -/
theorem magnitude_nearestCode_of_lt (small : n < 2 * F.leading) (least : F.leastExponent ≤ 0)
    (finite : F.nearestCode n < F.infinityCode) : F.magnitude (F.nearestCode n) = n := by
  rcases Nat.eq_zero_or_pos n with rfl | some
  · rw [Nat.cast_zero, Binary.nearestCode_zero, Binary.magnitude_zero]
  · have positive : (0 : Rat) < n := by exact_mod_cast some
    have low := (floorLog2_spec positive).1
    have high : (n : Rat) < 2 ^ ((F.fractionBits : Int) + 1) := by
      rw [two_zpow_add, zpow_one, ← leading_eq, mul_comm]
      exact_mod_cast small
    have bits := (zpow_lt_zpow_iff_right₀ (by decide : (1 : Rat) < 2)).mp (low.trans_lt high)
    have unit : F.unitExponent n ≤ 0 := by
      unfold unitExponent
      omega
    rw [magnitude_nearestCode positive finite, unitCount_natCast unit]

/-- A natural number is rounded to a natural number. -/
theorem exists_magnitude_nearestCode (finite : F.nearestCode n < F.infinityCode) :
    ∃ whole : Nat, F.magnitude (F.nearestCode n) = whole := by
  rcases Nat.eq_zero_or_pos n with rfl | some
  · exact ⟨0, by rw [Nat.cast_zero, Binary.nearestCode_zero, Binary.magnitude_zero]⟩
  · have positive : (0 : Rat) < n := by exact_mod_cast some
    rw [magnitude_nearestCode positive finite]
    by_cases unit : F.unitExponent n ≤ 0
    · exact ⟨n, unitCount_natCast unit⟩
    · refine ⟨F.unitCount n * 2 ^ (F.unitExponent n).toNat, ?_⟩
      push_cast
      rw [← zpow_natCast, Int.toNat_of_nonneg (by omega)]

end Format

/-! ## Numbers of 32 bits -/

/-- The number of 32 bits nearest to a natural number is greater than it. -/
def RoundsUp (n : Nat) : Prop := (n : Rat) < (Binary.ofInt Format.single n).value

instance (n : Nat) : Decidable (RoundsUp n) := inferInstanceAs (Decidable (_ < _))

variable {n : Nat}

theorem nearestCode_natCast_lt (word : n < 2 ^ 32) :
    Format.single.nearestCode n < Format.single.infinityCode := by
  have bound : Format.single.nearestCode (2 ^ 32 : Nat) < Format.single.infinityCode := by
    decide +kernel
  have ordered : (n : Rat) ≤ (2 ^ 32 : Nat) := by exact_mod_cast word.le
  exact (Format.nearestCode_mono ordered).trans_lt bound

theorem ofInt_natCast (n : Nat) : Binary.ofInt Format.single n =
    ⟨false, Format.single.nearestCode n, Format.nearestCode_lt_codes _ _⟩ := by
  have notNegative : ¬ (n : Rat) < 0 := not_lt.mpr (Nat.cast_nonneg n)
  simp only [Binary.ofInt, Binary.ofRat, Int.cast_natCast, if_neg notNegative,
    decide_eq_false notNegative, ite_self]

theorem value_ofInt (word : n < 2 ^ 32) : (Binary.ofInt Format.single n).value =
    Format.single.magnitude (Format.single.nearestCode n) := by
  have finite := nearestCode_natCast_lt word
  rw [ofInt_natCast, Binary.value, if_neg (by simpa using finite)]
  rfl

/-- The least number that is rounded up has 25 bits. -/
theorem not_roundsUp_of_lt (small : n < 16777219) : ¬RoundsUp n := by
  rw [RoundsUp, not_lt, value_ofInt (by omega)]
  by_cases short : n < 2 * Format.single.leading
  · rw [Format.magnitude_nearestCode_of_lt short (by decide)
      (nearestCode_natCast_lt (by omega))]
  · have bits : 2 * Format.single.leading = 16777216 := by decide
    have few : n = 16777216 ∨ n = 16777217 ∨ n = 16777218 := by omega
    rcases few with rfl | rfl | rfl <;> decide +kernel

example : RoundsUp 16777219 := by decide +kernel

end FrameCourier.Number
