import FrameCourier.Number.Decimal
import FrameCourier.Proofs.Number.Rounding

/-!
# Shortest decimals stay below the upper end

The decimal that a number is written with is no greater than the greatest real that reads back
as the number.
-/

namespace FrameCourier.Number

/-- The rational that a decimal stands for. -/
def Decimal.value (decimal : Decimal) : Rat := decimal.digits * 10 ^ decimal.exponent

theorem ten_zpow_pos (e : Int) : (0 : Rat) < 10 ^ e := zpow_pos (by decide) e

namespace Format

variable {F : Format} {code : Nat}

theorem upperEnd_nonneg (code : Nat) : 0 ≤ F.upperEnd code := by
  have here := F.magnitude_nonneg code
  have next := F.magnitude_nonneg (code + 1)
  unfold upperEnd
  linarith

theorem upperEnd_le (code : Nat) : F.upperEnd code ≤ F.magnitude (code + 1) := by
  have ordered := F.magnitude_le_succ code
  unfold upperEnd
  linarith

theorem le_upperEnd_of_readsBack {x : Rat} (reads : F.readsBack code x = true) :
    x ≤ F.upperEnd code := by
  unfold readsBack at reads
  split at reads
  · simp only [Bool.and_eq_true, decide_eq_true_eq] at reads
    exact reads.2
  · simp only [Bool.and_eq_true, decide_eq_true_eq] at reads
    exact reads.2.le

/-- Rounding goes to one of the grid points around a number. -/
theorem toNat_roundHalfEven {x : Rat} (low : 0 ≤ x) :
    (roundHalfEven x).toNat = x.floor.toNat ∨ (roundHalfEven x).toNat = x.floor.toNat + 1 := by
  have floors := Rat.floor_monotone low
  have atZero : (0 : Rat).floor = 0 := rfl
  have below := floor_le_roundHalfEven x
  have above := roundHalfEven_le_floor_add_one x
  omega

theorem value_decimalOfLength?_le {count : Nat} {decimal : Decimal}
    (found : F.decimalOfLength? .even code count = some decimal) :
    decimal.value ≤ F.upperEnd code := by
  have low : 0 ≤ F.magnitude code / 10 ^ (floorLog10 (F.magnitude code) + 1 - (count : Int)) :=
    div_nonneg (F.magnitude_nonneg code) (ten_zpow_pos _).le
  simp only [decimalOfLength?] at found
  split at found
  · next both =>
    obtain ⟨below, above⟩ := Bool.and_eq_true_iff.mp both
    cases found
    unfold Decimal.value
    rcases toNat_roundHalfEven low with same | same
    · simp only [Tie.round, same]
      exact le_upperEnd_of_readsBack below
    · simp only [Tie.round, same]
      exact le_upperEnd_of_readsBack above
  split at found
  · next below =>
    cases found
    exact le_upperEnd_of_readsBack below
  split at found
  · next above =>
    cases found
    exact le_upperEnd_of_readsBack above
  · cases found

theorem value_shortest_le (code : Nat) : (F.shortest .even code).value ≤ F.upperEnd code := by
  unfold shortest
  cases found : (List.range F.fractionBits).findSome? fun n =>
      F.decimalOfLength? .even code (n + 1) with
  | none =>
    have zero : ((Option.none : Option Decimal).getD ⟨0, 0⟩).value = 0 := by
      simp [Decimal.value]
    rw [zero]
    exact upperEnd_nonneg code
  | some decimal =>
    obtain ⟨n, -, tried⟩ := List.exists_of_findSome?_eq_some found
    exact value_decimalOfLength?_le tried

end Format

end FrameCourier.Number
