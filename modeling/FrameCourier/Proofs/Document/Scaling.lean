import FrameCourier.Document.Scan
import FrameCourier.Proofs.Number.Range
import FrameCourier.Proofs.Number.Shortest

/-!
# Scaling by powers of ten stays finite

A significand and a power of ten are rounded before they are multiplied, and so is their product.
As rounding keeps order, it is enough to look at the greatest significand of every power.  Up to
`scalable` no product is rounded to infinity.
-/

namespace FrameCourier.Document

open Number

/-- The number three units before the one that is too large to be finite. -/
def scalable : Nat := (2 ^ 53 - 3) * 2 ^ 971

theorem magnitude_eq_scalable :
    Format.double.magnitude (Format.double.infinityCode - 3) = (scalable : Rat) := by
  decide +kernel

/-- The greatest code of the product of a significand and a power of ten. -/
def greatestProduct (significand exponent : Nat) : Nat :=
  Format.double.nearestCode (Format.double.magnitude (Format.double.nearestCode significand) *
    Format.double.magnitude (Format.double.nearestCode (tenTo exponent)))

/-- A significand and a power of ten that are finite, and so is their product. -/
structure StaysFinite (significand exponent : Nat) : Prop where
  factor : Format.double.nearestCode significand < Format.double.infinityCode
  power : Format.double.nearestCode (tenTo exponent) < Format.double.infinityCode
  product : greatestProduct significand exponent < Format.double.infinityCode

/-- What is no greater stays finite as well. -/
theorem isInfinite_of_staysFinite {significand exponent greatest most : Nat}
    (finite : StaysFinite greatest most) (small : significand ≤ greatest)
    (short : exponent ≤ most) :
    (Binary.ofInt Format.double significand * powerOfTen exponent).isInfinite = false := by
  have left : (Binary.ofInt Format.double significand).IsWithin
      (Format.double.nearestCode greatest) :=
    Binary.isWithin_ofRat (by exact_mod_cast Nat.zero_le _) (by exact_mod_cast small)
  have right : (powerOfTen exponent).IsWithin (Format.double.nearestCode (tenTo most)) :=
    Binary.isWithin_ofRat (by exact_mod_cast Nat.zero_le _)
      (by exact_mod_cast Nat.pow_le_pow_right (by decide : 0 < 10) short)
  have product := left.mul finite.factor (right.isNotANumber_eq finite.power)
    (right.isInfinite_eq finite.power) (right.value_nonneg finite.power)
  have factors := mul_le_mul_of_nonneg_left (right.value_le finite.power)
    (Format.double.magnitude_nonneg (Format.double.nearestCode greatest))
  have ordered := Format.double.nearestCode_mono factors
  have bound := product.bound
  have code := finite.product
  unfold greatestProduct at code
  simp only [Binary.isInfinite, decide_eq_false_iff_not]
  omega

/-- No significand of 64 bits is too large for the powers up to this one. -/
theorem staysFinite_word : StaysFinite greatestWord64 288 :=
  ⟨by decide +kernel, by decide +kernel, by decide +kernel⟩

/-- For every greater power the significand is limited by `scalable`. -/
theorem staysFinite_scalable {exponent : Nat} (low : 288 ≤ exponent) (high : exponent ≤ 308) :
    StaysFinite (scalable / tenTo exponent) exponent := by
  have significands : ∀ n < 21, Format.double.nearestCode ((scalable / tenTo (288 + n) : Nat) : Rat) <
      Format.double.infinityCode := by decide +kernel
  have powers : ∀ n < 21, Format.double.nearestCode (tenTo (288 + n)) <
      Format.double.infinityCode := by decide +kernel
  have products : ∀ n < 21, greatestProduct (scalable / tenTo (288 + n)) (288 + n) <
      Format.double.infinityCode := by decide +kernel
  obtain ⟨n, rfl⟩ := Nat.exists_eq_add_of_le low
  exact ⟨significands n (by omega), powers n (by omega), products n (by omega)⟩

/-- No greater power of ten is finite. -/
theorem le_of_tenTo_le_scalable {n : Nat} (fits : tenTo n ≤ scalable) : n ≤ 308 := by
  by_contra long
  have power : tenTo 309 ≤ tenTo n := by
    rw [show n = 309 + (n - 309) by omega, tenTo_add]
    exact Nat.le_mul_of_pos_right _ (tenTo_pos _)
  have most : scalable < tenTo 309 := by decide +kernel
  exact absurd (power.trans fits) (not_le.mpr most)

theorem exists_scaleByTen_of_neg (x : Double) {exponent : Int} (negative : exponent < 0) :
    ∃ y, scaleByTen x exponent = some y := by
  fun_induction scaleByTen x exponent with
  | case1 x exponent low high y infinite => omega
  | case2 x exponent low high y finite => omega
  | case3 x exponent low high zero => omega
  | case4 x exponent low high notZero => omega
  | case5 x exponent low high => exact ⟨_, rfl⟩
  | case6 x exponent low high zero => exact ⟨_, rfl⟩
  | case7 x exponent low high notZero ih => exact ih (by omega)

/-- A significand of 64 bits is scaled by every power of ten that does not lead beyond
`scalable`. -/
theorem exists_scaleByTen {significand : Nat} (word : significand ≤ greatestWord64)
    {exponent : Int} (fits : 0 ≤ exponent → (significand : Rat) * 10 ^ exponent ≤ scalable) :
    ∃ y, scaleByTen (Binary.ofInt Format.double significand) exponent = some y := by
  by_cases negative : exponent < 0
  · exact exists_scaleByTen_of_neg _ negative
  obtain ⟨n, rfl⟩ := Int.eq_ofNat_of_zero_le (not_lt.mp negative)
  have bound : significand * 10 ^ n ≤ scalable := by
    have rational := fits (Int.natCast_nonneg n)
    rw [zpow_natCast] at rational
    exact_mod_cast rational
  unfold scaleByTen
  rw [if_pos (Int.natCast_nonneg n)]
  by_cases short : (n : Int) ≤ 308
  · have most : n ≤ 308 := by omega
    have finite : (Binary.ofInt Format.double significand * powerOfTen n).isInfinite = false := by
      by_cases low : n ≤ 288
      · exact isInfinite_of_staysFinite staysFinite_word word low
      · have limited : significand ≤ scalable / tenTo n :=
          (Nat.le_div_iff_mul_le (tenTo_pos n)).mpr bound
        exact isInfinite_of_staysFinite (staysFinite_scalable (by omega) most) limited (le_refl n)
    rw [if_pos short]
    simp only [Int.toNat_natCast, finite, Bool.false_eq_true, if_false]
    exact ⟨_, rfl⟩
  · -- Only zero is scaled by a power that is beyond every finite number itself.
    have zero : significand = 0 := by
      by_contra some
      have least : tenTo n ≤ significand * tenTo n :=
        Nat.le_mul_of_pos_left _ (Nat.pos_of_ne_zero some)
      have most := le_of_tenTo_le_scalable (least.trans bound)
      omega
    have isZero : (Binary.ofInt Format.double ((0 : Nat) : Int)).isZero = true := by
      decide +kernel
    rw [if_neg short, zero, if_pos isZero]
    exact ⟨_, rfl⟩

end FrameCourier.Document
