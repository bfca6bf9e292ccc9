import FrameCourier.Number.Binary
import Mathlib.Algebra.Order.Field.Rat
import Mathlib.Data.Rat.Floor
import Mathlib.Tactic.Linarith

/-!
# Rounding keeps order

The greater of two rationals has the greater nearest code, and the greater of two codes stands
for the greater rational.  Within one binade the codes are counted by rounding to a multiple of
the unit; from one binade to the next the count of a whole binade is passed.
-/

namespace FrameCourier.Number

/-! ## Rounding to integers -/

theorem floor_le_roundHalfEven (x : Rat) : x.floor ≤ roundHalfEven x := by
  unfold roundHalfEven
  grind

theorem roundHalfEven_le_floor_add_one (x : Rat) : roundHalfEven x ≤ x.floor + 1 := by
  unfold roundHalfEven
  grind

theorem roundHalfEven_mono {x y : Rat} (ordered : x ≤ y) : roundHalfEven x ≤ roundHalfEven y := by
  have floors := Rat.floor_monotone ordered
  by_cases same : x.floor = y.floor
  · unfold roundHalfEven
    simp only [same]
    grind
  · have high := roundHalfEven_le_floor_add_one x
    have low := floor_le_roundHalfEven y
    omega

theorem roundHalfEven_intCast (n : Int) : roundHalfEven (n : Rat) = n := by
  unfold roundHalfEven
  simp [Rat.floor_intCast]

theorem roundHalfUp_mono {x y : Rat} (ordered : x ≤ y) : roundHalfUp x ≤ roundHalfUp y :=
  Rat.floor_monotone (by linarith)

/-! ## Powers of two -/

theorem two_zpow_pos (e : Int) : (0 : Rat) < 2 ^ e := zpow_pos (by decide) e

theorem two_zpow_le {d e : Int} (ordered : d ≤ e) : (2 : Rat) ^ d ≤ 2 ^ e :=
  (zpow_le_zpow_iff_right₀ (by decide)).mpr ordered

theorem two_zpow_add (d e : Int) : (2 : Rat) ^ (d + e) = 2 ^ d * 2 ^ e :=
  zpow_add₀ (by decide) d e

/-- A positive natural number lies between two powers of two. -/
theorem log2_bounds {n : Nat} (some : n ≠ 0) :
    (2 : Rat) ^ (n.log2 : Int) ≤ n ∧ (n : Rat) < 2 ^ ((n.log2 : Int) + 1) := by
  constructor
  · rw [zpow_natCast]
    exact_mod_cast Nat.log2_self_le some
  · rw [show ((n.log2 : Int) + 1) = ((n.log2 + 1 : Nat) : Int) from rfl, zpow_natCast]
    exact_mod_cast Nat.lt_log2_self

/-- The lengths of numerator and denominator give the logarithm up to one. -/
theorem div_bounds {n d : Nat} (someN : n ≠ 0) (someD : d ≠ 0) :
    (2 : Rat) ^ ((n.log2 : Int) - d.log2 - 1) ≤ (n : Rat) / d ∧
      (n : Rat) / d < 2 ^ ((n.log2 : Int) - d.log2 + 1) := by
  obtain ⟨lowN, highN⟩ := log2_bounds someN
  obtain ⟨lowD, highD⟩ := log2_bounds someD
  have positive : (0 : Rat) < d := by exact_mod_cast Nat.pos_of_ne_zero someD
  constructor
  · rw [le_div_iff₀ positive]
    calc (2 : Rat) ^ ((n.log2 : Int) - d.log2 - 1) * d
        ≤ 2 ^ ((n.log2 : Int) - d.log2 - 1) * 2 ^ ((d.log2 : Int) + 1) :=
          mul_le_mul_of_nonneg_left highD.le (two_zpow_pos _).le
      _ = 2 ^ (n.log2 : Int) := by
          rw [← two_zpow_add]
          congr 1
          omega
      _ ≤ n := lowN
  · rw [div_lt_iff₀ positive]
    calc (n : Rat) < 2 ^ ((n.log2 : Int) + 1) := highN
      _ = 2 ^ ((n.log2 : Int) - d.log2 + 1) * 2 ^ (d.log2 : Int) := by
          rw [← two_zpow_add]
          congr 1
          omega
      _ ≤ 2 ^ ((n.log2 : Int) - d.log2 + 1) * d :=
          mul_le_mul_of_nonneg_left lowD (two_zpow_pos _).le

theorem floorLog2_spec {x : Rat} (positive : 0 < x) :
    (2 : Rat) ^ floorLog2 x ≤ x ∧ x < 2 ^ (floorLog2 x + 1) := by
  have someN : x.num.natAbs ≠ 0 := by
    have numerator := Rat.num_pos.mpr positive
    omega
  have whole : x = (x.num.natAbs : Rat) / x.den := by
    have numerator : ((x.num.natAbs : Int) : Rat) = x.num := by
      rw [Int.natAbs_of_nonneg (Rat.num_pos.mpr positive).le]
    rw [← Int.cast_natCast, numerator, Rat.num_div_den]
  obtain ⟨low, high⟩ := div_bounds someN x.den_nz
  rw [← whole] at low high
  simp only [floorLog2]
  split
  · next below =>
    rw [Int.sub_add_cancel]
    exact ⟨low, below⟩
  · next notBelow => exact ⟨not_lt.mp notBelow, high⟩

theorem floorLog2_mono {x y : Rat} (positive : 0 < x) (ordered : x ≤ y) :
    floorLog2 x ≤ floorLog2 y := by
  have low := (floorLog2_spec positive).1
  have high := (floorLog2_spec (positive.trans_le ordered)).2
  have powers : (2 : Rat) ^ floorLog2 x < 2 ^ (floorLog2 y + 1) := by linarith
  have exponents := (zpow_lt_zpow_iff_right₀ (by decide : (1 : Rat) < 2)).mp powers
  omega

/-! ## Nearest codes -/

namespace Format

variable (F : Format)

/-- The exponent of the unit that a positive rational is rounded to a multiple of. -/
def unitExponent (x : Rat) : Int := max F.leastExponent (floorLog2 x - F.fractionBits)

/-- The multiple of the unit that a positive rational is rounded to. -/
def unitCount (x : Rat) : Nat := (roundHalfEven (x / 2 ^ F.unitExponent x)).toNat

variable {F}

theorem nearestCode_of_pos {x : Rat} (positive : 0 < x) :
    F.nearestCode x = min F.infinityCode
      ((F.unitExponent x - F.leastExponent).toNat * F.leading + F.unitCount x) := by
  unfold nearestCode
  rw [if_neg (not_le.mpr positive)]
  rfl

theorem leading_eq : (F.leading : Rat) = 2 ^ (F.fractionBits : Int) := by
  rw [zpow_natCast]
  exact_mod_cast (rfl : F.leading = 2 ^ F.fractionBits)

/-- No more units are counted than there are in two binades. -/
theorem unitCount_le {x : Rat} (positive : 0 < x) : F.unitCount x ≤ 2 * F.leading := by
  have high := (floorLog2_spec positive).2
  have unit : floorLog2 x + 1 ≤ F.unitExponent x + F.fractionBits + 1 := by
    unfold unitExponent
    omega
  have quotient : x / 2 ^ F.unitExponent x ≤ ((2 * F.leading : Int) : Rat) := by
    rw [div_le_iff₀ (two_zpow_pos _)]
    push_cast
    rw [leading_eq]
    calc x ≤ 2 ^ (F.unitExponent x + F.fractionBits + 1) := high.le.trans (two_zpow_le unit)
      _ = 2 * 2 ^ (F.fractionBits : Int) * 2 ^ F.unitExponent x := by
          rw [two_zpow_add, two_zpow_add, zpow_one]
          ring
  have rounded := roundHalfEven_mono quotient
  rw [roundHalfEven_intCast] at rounded
  unfold unitCount
  omega

/-- Above the least binade a whole binade of units is counted. -/
theorem leading_le_unitCount {x : Rat} (positive : 0 < x)
    (above : F.leastExponent < F.unitExponent x) : F.leading ≤ F.unitCount x := by
  have low := (floorLog2_spec positive).1
  have unit : F.unitExponent x + F.fractionBits = floorLog2 x := by
    unfold unitExponent at above ⊢
    omega
  have quotient : ((F.leading : Int) : Rat) ≤ x / 2 ^ F.unitExponent x := by
    rw [le_div_iff₀ (two_zpow_pos _)]
    push_cast
    rw [leading_eq, ← two_zpow_add, Int.add_comm, unit]
    exact low
  have rounded := roundHalfEven_mono quotient
  rw [roundHalfEven_intCast] at rounded
  unfold unitCount
  omega

theorem nearestCode_mono {x y : Rat} (ordered : x ≤ y) : F.nearestCode x ≤ F.nearestCode y := by
  by_cases positive : 0 < x
  · have positiveY := positive.trans_le ordered
    have units : F.unitExponent x ≤ F.unitExponent y := by
      have logs := floorLog2_mono positive ordered
      unfold unitExponent
      omega
    have least : F.leastExponent ≤ F.unitExponent x := le_max_left _ _
    rw [nearestCode_of_pos positive, nearestCode_of_pos positiveY]
    refine min_le_min_left _ ?_
    by_cases same : F.unitExponent x = F.unitExponent y
    · have quotients : x / 2 ^ F.unitExponent y ≤ y / 2 ^ F.unitExponent y :=
        div_le_div_of_nonneg_right ordered (two_zpow_pos _).le
      have counts : F.unitCount x ≤ F.unitCount y := by
        unfold unitCount
        rw [same]
        exact Int.toNat_le_toNat (roundHalfEven_mono quotients)
      rw [same]
      omega
    · -- Any count in a lower binade is passed by the whole binade that is counted in a higher one.
      have high := unitCount_le (F := F) positive
      have low := leading_le_unitCount (F := F) positiveY (by omega)
      obtain ⟨binades, steps⟩ : ∃ n : Nat, (F.unitExponent y - F.leastExponent).toNat =
          (F.unitExponent x - F.leastExponent).toNat + 1 + n :=
        ⟨(F.unitExponent y - F.unitExponent x - 1).toNat, by omega⟩
      have more := Nat.zero_le (binades * F.leading)
      rw [steps, Nat.add_mul, Nat.add_mul, Nat.one_mul]
      omega
  · unfold nearestCode
    rw [if_pos (not_lt.mp positive)]
    exact Nat.zero_le _

/-! ## Magnitudes -/

theorem leading_pos : 0 < F.leading := twoTo_pos _

/-- The magnitude of a code by its binade and its place there. -/
theorem magnitude_eq (binade : Nat) {place : Nat} (inside : place < F.leading) :
    F.magnitude (binade * F.leading + place) =
      ((if binade = 0 then place else F.leading + place : Nat) : Rat) *
        2 ^ (F.leastExponent + ((binade - 1 : Nat) : Int)) := by
  have quotient : (binade * F.leading + place) / F.leading = binade := by
    rw [Nat.add_comm, Nat.add_mul_div_right _ _ F.leading_pos, Nat.div_eq_of_lt inside,
      Nat.zero_add]
  have remainder : (binade * F.leading + place) % F.leading = place := by
    rw [Nat.add_comm, Nat.add_mul_mod_self_right, Nat.mod_eq_of_lt inside]
  unfold magnitude significand exponent
  rw [quotient, remainder]
  by_cases least : binade = 0
  · subst least
    simp [inside]
  · have notLess : ¬ binade * F.leading + place < F.leading := by
      have some := Nat.le_mul_of_pos_left F.leading (Nat.pos_of_ne_zero least)
      omega
    rw [if_neg notLess, if_neg least]

/-- The next code stands for a greater rational, in the same binade or in the next one. -/
theorem magnitude_le_succ (code : Nat) : F.magnitude code ≤ F.magnitude (code + 1) := by
  have inside := Nat.mod_lt code F.leading_pos
  have split : code / F.leading * F.leading + code % F.leading = code := Nat.div_add_mod' _ _
  generalize code / F.leading = binade at split
  generalize code % F.leading = place at split inside
  subst split
  rw [magnitude_eq binade inside]
  by_cases last : place + 1 = F.leading
  · have next : binade * F.leading + place + 1 = (binade + 1) * F.leading + 0 := by
      rw [Nat.add_mul, Nat.one_mul]
      omega
    rw [next, magnitude_eq (binade + 1) F.leading_pos, if_neg (Nat.succ_ne_zero _),
      Nat.add_zero, Nat.add_sub_cancel]
    cases binade with
    | zero =>
      refine mul_le_mul_of_nonneg_right ?_ (two_zpow_pos _).le
      exact_mod_cast inside.le
    | succ binade =>
      have power : (2 : Rat) ^ (F.leastExponent + ((binade + 1 : Nat) : Int)) =
          2 ^ (F.leastExponent + (binade : Int)) * 2 := by
        rw [Int.natCast_succ, ← Int.add_assoc, two_zpow_add, zpow_one]
      rw [if_neg (Nat.succ_ne_zero _), Nat.add_sub_cancel, power]
      have counts : ((F.leading + place : Nat) : Rat) ≤ 2 * (F.leading : Rat) := by
        exact_mod_cast (by omega : F.leading + place ≤ 2 * F.leading)
      calc ((F.leading + place : Nat) : Rat) * 2 ^ (F.leastExponent + (binade : Int))
          ≤ 2 * F.leading * 2 ^ (F.leastExponent + (binade : Int)) :=
            mul_le_mul_of_nonneg_right counts (two_zpow_pos _).le
        _ = F.leading * (2 ^ (F.leastExponent + (binade : Int)) * 2) := by ring
  · rw [Nat.add_assoc, magnitude_eq binade (by omega : place + 1 < F.leading)]
    refine mul_le_mul_of_nonneg_right ?_ (two_zpow_pos _).le
    split
    · exact_mod_cast Nat.le_succ place
    · exact_mod_cast (by omega : F.leading + place ≤ F.leading + (place + 1))

theorem magnitude_mono {a b : Nat} (ordered : a ≤ b) : F.magnitude a ≤ F.magnitude b := by
  induction ordered with
  | refl => exact le_refl _
  | step _ ih => exact ih.trans (magnitude_le_succ _)

theorem magnitude_nonneg (code : Nat) : 0 ≤ F.magnitude code := by
  have zero : F.magnitude 0 = 0 := by
    have first := magnitude_eq (F := F) 0 F.leading_pos
    simpa using first
  rw [← zero]
  exact magnitude_mono (Nat.zero_le code)

end Format

end FrameCourier.Number
