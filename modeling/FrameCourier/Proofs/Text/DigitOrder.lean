import FrameCourier.Proofs.Text.Digits
import Mathlib.Data.String.Basic

/-!
# Digits in the order of texts

Texts are in the order of their first different characters.  For runs of digits of one length that
is the order of their values, whatever follows them.  A longer run comes behind the run that it
begins with, so numbers that outgrow their padding come between numbers that have not.
-/

namespace FrameCourier.Text

open Time

theorem toNat_of_isDigit {c : Char} (digit : c.isDigit = true) :
    48 ≤ c.toNat ∧ c.toNat ≤ 57 := by
  simp only [Char.isDigit, Bool.and_eq_true, decide_eq_true_eq] at digit
  exact ⟨UInt32.le_iff_toNat_le.mp digit.1, UInt32.le_iff_toNat_le.mp digit.2⟩

theorem char_lt_of_toNat_lt {c d : Char} (less : c.toNat < d.toNat) : c < d :=
  Char.lt_def.mpr (UInt32.lt_iff_toNat_lt.mpr less)

/-! ## Runs of one length -/

theorem digitsValue_cons (c : Char) (cs : List Char) :
    digitsValue (c :: cs) = 10 ^ cs.length * (c.toNat - 48) + digitsValue cs := by
  rw [← List.singleton_append, digitsValue_append]
  simp [digitsValue]

theorem digitsValue_lt {digits : List Char} (areDigits : AllDigits digits) :
    digitsValue digits < 10 ^ digits.length := by
  induction digits with
  | nil => decide
  | cons c cs ih =>
    obtain ⟨first, later⟩ := List.forall_mem_cons.mp areDigits
    have value := ih later
    have bound := (toNat_of_isDigit first).2
    have high : 10 ^ cs.length * (c.toNat - 48) ≤ 10 ^ cs.length * 9 :=
      Nat.mul_le_mul_left _ (by omega)
    rw [digitsValue_cons, List.length_cons, Nat.pow_succ]
    omega

/-- Of two runs of one length the one of the lesser value comes first, whatever follows. -/
theorem eq_or_append_lt {a b : List Char} (digitsA : AllDigits a) (digitsB : AllDigits b)
    (length : a.length = b.length) (ordered : digitsValue a ≤ digitsValue b) :
    a = b ∨ ∀ s t, a ++ s < b ++ t := by
  induction a generalizing b with
  | nil => exact .inl (List.length_eq_zero_iff.mp length.symm).symm
  | cons c a ih =>
    cases b with
    | nil => cases length
    | cons d b =>
      obtain ⟨firstA, laterA⟩ := List.forall_mem_cons.mp digitsA
      obtain ⟨firstB, laterB⟩ := List.forall_mem_cons.mp digitsB
      have same : a.length = b.length := Nat.succ.inj length
      rw [digitsValue_cons, digitsValue_cons, same] at ordered
      rcases Nat.lt_trichotomy c.toNat d.toNat with less | equal | greater
      · exact .inr fun s t => List.cons_lt_cons_iff.mpr (.inl (char_lt_of_toNat_lt less))
      · have first : c = d := Char.toNat_inj.mp equal
        subst first
        rcases ih laterA laterB same (by omega) with rest | rest
        · exact .inl (by rw [rest])
        · exact .inr fun s t => List.cons_lt_cons_iff.mpr (.inr ⟨rfl, rest s t⟩)
      · -- A greater first digit outweighs all that may follow the other one.
        have low := (toNat_of_isDigit firstB).1
        have value := digitsValue_lt laterB
        have high := Nat.mul_le_mul_left (10 ^ b.length)
          (by omega : d.toNat - 48 + 1 ≤ c.toNat - 48)
        rw [Nat.mul_add, Nat.mul_one] at high
        omega

/-- What follows runs of digits and begins below all digits does not change their order. -/
theorem append_lt_append {a b rest : List Char} {c : Char} (digits : AllDigits b)
    (below : c.toNat < 48) (ordered : a < b) : a ++ c :: rest < b ++ c :: rest := by
  induction a generalizing b with
  | nil =>
    cases b with
    | nil => exact absurd ordered (lt_irrefl [])
    | cons d b =>
      have digit := (toNat_of_isDigit (digits d List.mem_cons_self)).1
      exact List.cons_lt_cons_iff.mpr (.inl (char_lt_of_toNat_lt (by omega)))
  | cons e a ih =>
    cases b with
    | nil => exact absurd ordered (List.not_lt_nil _)
    | cons d b =>
      rcases List.cons_lt_cons_iff.mp ordered with less | ⟨rfl, later⟩
      · exact List.cons_lt_cons_iff.mpr (.inl less)
      · exact List.cons_lt_cons_iff.mpr
          (.inr ⟨rfl, ih (List.forall_mem_cons.mp digits).2 later⟩)

/-- What is put behind a run comes after it. -/
theorem le_append (a b : List Char) : a ≤ a ++ b := by
  cases b with
  | nil => rw [List.append_nil]
  | cons c b =>
    have longer : a ++ [] < a ++ c :: b := List.append_left_lt (List.nil_lt_cons c b)
    rw [List.append_nil] at longer
    exact longer.le

/-! ## Padded numbers -/

variable {width m n : Nat}

/-- Padding that a number fills adds nothing to its digits. -/
theorem toList_padded_of_le (some : 1 < width) (long : 10 ^ (width - 1) ≤ n) :
    (padded width n).toList = Nat.toDigits 10 n := by
  have many : width - 1 < (Nat.toDigits 10 n).length := by
    rw [← Nat.not_le, Nat.length_toDigits_le_iff (by decide) (by omega)]
    exact Nat.not_lt.mpr long
  rw [toList_padded, Nat.sub_eq_zero_of_le (by omega), List.replicate_zero, List.nil_append]

/-- A number whose tenth fills the padding is that tenth and its last digit. -/
theorem padded_of_le (some : 1 < width) (long : 10 ^ (width - 1) ≤ n / 10) :
    (padded width n).toList = (padded width (n / 10)).toList ++ [(n % 10).digitChar] := by
  have positive : 0 < 10 ^ (width - 1) := Nat.pow_pos (by decide)
  have ten : 10 ≤ n := by omega
  rw [toList_padded_of_le some (by omega), toList_padded_of_le some long,
    Nat.toDigits_of_base_le (by decide) ten]

/-- Numbers that fit are in order. -/
theorem padded_le_padded_of_lt (some : 0 < width) (ordered : m ≤ n) (fits : n < 10 ^ width) :
    (padded width m).toList ≤ (padded width n).toList := by
  have lengthM := length_padded some (Nat.lt_of_le_of_lt ordered fits)
  have lengthN := length_padded some fits
  rcases eq_or_append_lt (allDigits_padded width m) (allDigits_padded width n)
    (lengthM.trans lengthN.symm) (by rw [digitsValue_padded, digitsValue_padded]; exact ordered)
    with equal | less
  · rw [equal]
  · have first := less [] []
    rw [List.append_nil, List.append_nil] at first
    exact first.le

/-- A number that fits comes before all that are longer, if it is no greater than the first of
those: they begin with digits of at least its value. -/
theorem padded_le_padded_of_le (some : 1 < width) (low : m ≤ 10 ^ (width - 1))
    (high : 10 ^ (width - 1) ≤ n) : (padded width m).toList ≤ (padded width n).toList := by
  induction n using Nat.strong_induction_on with
  | _ n ih =>
    by_cases fits : n < 10 ^ width
    · exact padded_le_padded_of_lt (by omega) (low.trans high) fits
    · have power : 10 ^ width = 10 ^ (width - 1) * 10 := by
        rw [← Nat.pow_succ, Nat.succ_eq_add_one, Nat.sub_add_cancel some.le]
      have long : 10 ^ width ≤ n := Nat.not_lt.mp fits
      have positive : 0 < 10 ^ (width - 1) := Nat.pow_pos (by decide)
      have tenth : 10 ^ (width - 1) ≤ n / 10 := by omega
      have less : n / 10 < n := by omega
      rw [padded_of_le some tenth]
      exact (ih (n / 10) less tenth).trans (le_append _ _)

end FrameCourier.Text
