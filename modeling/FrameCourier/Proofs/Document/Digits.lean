import FrameCourier.Proofs.Document.Locality.Number
import Mathlib.Algebra.Ring.Nat
import Mathlib.Tactic.Ring

/-!
# The digits of numerals

Decimal digits stand for a number, and the decimal digits of a number stand for that number.
Digits before the point are all read, and digits that fit 64 bits are all taken into the
significand.
-/

namespace FrameCourier.Document

open Ascii Number

/-! ## The digits of a number -/

/-- The decimal digits of a number as bytes. -/
def decimalBytes (n : Nat) : Bytes := (Nat.toDigits 10 n).map fun c => c.toNat.toUInt8

/-- The byte of a digit. -/
def digitByte (n : Nat) : UInt8 := zero + n.toUInt8

theorem isDigit_digitByte {n : Nat} (small : n < 10) : isDigit (digitByte n) = true := by
  have all : ∀ n < 10, isDigit (digitByte n) = true := by decide
  exact all n small

theorem digitValue_digitByte {n : Nat} (small : n < 10) : digitValue (digitByte n) = n := by
  have all : ∀ n < 10, digitValue (digitByte n) = n := by decide
  exact all n small

theorem toUInt8_digitChar {n : Nat} (small : n < 10) :
    n.digitChar.toNat.toUInt8 = digitByte n := by
  have all : ∀ n < 10, n.digitChar.toNat.toUInt8 = digitByte n := by decide
  exact all n small

theorem decimalBytes_of_lt {n : Nat} (small : n < 10) : decimalBytes n = [digitByte n] := by
  simp [decimalBytes, Nat.toDigits_of_lt_base small, toUInt8_digitChar small]

theorem decimalBytes_of_ge {n : Nat} (large : 10 ≤ n) :
    decimalBytes n = decimalBytes (n / 10) ++ [digitByte (n % 10)] := by
  simp [decimalBytes, Nat.toDigits_of_base_le (by decide) large,
    toUInt8_digitChar (Nat.mod_lt n (by decide))]

theorem isDigit_of_mem_decimalBytes {n : Nat} {b : UInt8} (member : b ∈ decimalBytes n) :
    isDigit b = true := by
  induction n using Nat.strongRecOn with
  | ind n ih =>
    by_cases small : n < 10
    · rw [decimalBytes_of_lt small, List.mem_singleton] at member
      rw [member]
      exact isDigit_digitByte small
    · rw [decimalBytes_of_ge (by omega), List.mem_append, List.mem_singleton] at member
      rcases member with member | rfl
      · exact ih (n / 10) (by omega) member
      · exact isDigit_digitByte (Nat.mod_lt n (by decide))

/-- A positive number has no leading zero. -/
theorem decimalBytes_of_pos {n : Nat} (positive : 0 < n) :
    ∃ b digits, decimalBytes n = b :: digits ∧ b ≠ zero := by
  induction n using Nat.strongRecOn with
  | ind n ih =>
    by_cases small : n < 10
    · have all : ∀ n < 10, 0 < n → digitByte n ≠ zero := by decide
      exact ⟨digitByte n, [], decimalBytes_of_lt small, all n small positive⟩
    · obtain ⟨b, digits, equal, notZero⟩ := ih (n / 10) (by omega) (by omega)
      exact ⟨b, digits ++ [digitByte (n % 10)], by rw [decimalBytes_of_ge (by omega), equal]; rfl,
        notZero⟩

/-! ## The value of digits -/

/-- The number that decimal digits stand for. -/
def digitsNumber (digits : Bytes) : Nat := digits.foldl (fun n b => n * 10 + digitValue b) 0

theorem foldl_digits (start : Nat) (digits : Bytes) :
    digits.foldl (fun n b => n * 10 + digitValue b) start =
      start * 10 ^ digits.length + digitsNumber digits := by
  induction digits generalizing start with
  | nil => simp [digitsNumber]
  | cons b digits ih =>
    have first : digitsNumber (b :: digits) =
        (0 * 10 + digitValue b) * 10 ^ digits.length + digitsNumber digits :=
      ih (0 * 10 + digitValue b)
    rw [List.foldl_cons, ih, first, List.length_cons, Nat.pow_succ]
    ring

theorem digitsNumber_append (digits more : Bytes) :
    digitsNumber (digits ++ more) = digitsNumber digits * 10 ^ more.length + digitsNumber more := by
  rw [digitsNumber, List.foldl_append, foldl_digits]
  rfl

theorem digitsNumber_cons (b : UInt8) (digits : Bytes) :
    digitsNumber (b :: digits) = digitValue b * 10 ^ digits.length + digitsNumber digits := by
  rw [digitsNumber, List.foldl_cons, foldl_digits, Nat.zero_mul, Nat.zero_add]

theorem digitValue_lt {b : UInt8} (digit : isDigit b = true) : digitValue b < 10 := by
  simp only [isDigit, Bool.and_eq_true, decide_eq_true_eq, UInt8.le_iff_toNat_le] at digit
  have high : b.toNat ≤ 57 := digit.2
  have zeroCode : zero.toNat = 48 := rfl
  simp only [digitValue, zeroCode]
  omega

theorem digitsNumber_lt {digits : Bytes} (areDigits : ∀ b ∈ digits, isDigit b = true) :
    digitsNumber digits < 10 ^ digits.length := by
  induction digits with
  | nil => decide
  | cons b digits ih =>
    have first := digitValue_lt (areDigits b (by simp))
    have rest := ih fun c inside => areDigits c (by simp [inside])
    rw [digitsNumber_cons, List.length_cons, Nat.pow_succ]
    calc digitValue b * 10 ^ digits.length + digitsNumber digits
        < digitValue b * 10 ^ digits.length + 10 ^ digits.length := by omega
      _ = (digitValue b + 1) * 10 ^ digits.length := by ring
      _ ≤ 10 * 10 ^ digits.length := Nat.mul_le_mul_right _ first
      _ = 10 ^ digits.length * 10 := Nat.mul_comm _ _

/-- Without a leading zero a number is as large as its digits are many. -/
theorem le_digitsNumber {b : UInt8} {digits : Bytes} (digit : isDigit b = true)
    (notZero : b ≠ zero) : 10 ^ digits.length ≤ digitsNumber (b :: digits) := by
  have positive : 0 < digitValue b := by
    simp only [isDigit, Bool.and_eq_true, decide_eq_true_eq, UInt8.le_iff_toNat_le] at digit
    have low : 48 ≤ b.toNat := digit.1
    have other : b.toNat ≠ 48 := fun same => notZero (UInt8.toNat_inj.mp same)
    have zeroCode : zero.toNat = 48 := rfl
    simp only [digitValue, zeroCode]
    omega
  rw [digitsNumber_cons]
  exact (Nat.le_mul_of_pos_left _ positive).trans (Nat.le_add_right _ _)

theorem digitsNumber_decimalBytes (n : Nat) : digitsNumber (decimalBytes n) = n := by
  induction n using Nat.strongRecOn with
  | ind n ih =>
    by_cases small : n < 10
    · simp [decimalBytes_of_lt small, digitsNumber, digitValue_digitByte small]
    · rw [decimalBytes_of_ge (by omega), digitsNumber_append, ih (n / 10) (by omega)]
      simp [digitsNumber, digitValue_digitByte (Nat.mod_lt n (by decide))]
      omega

/-! ## Reading digits -/

/-- Few digits all fit. -/
theorem absorb_of_lt {digits : Bytes} {significand : Nat}
    (fits : significand * 10 ^ digits.length + digitsNumber digits ≤ greatestWord64) :
    absorb significand digits =
      (significand * 10 ^ digits.length + digitsNumber digits, digits.length) := by
  induction digits generalizing significand with
  | nil => simp [absorb, digitsNumber]
  | cons b digits ih =>
    have parts : significand * 10 ^ (b :: digits).length + digitsNumber (b :: digits) =
        (significand * 10 + digitValue b) * 10 ^ digits.length + digitsNumber digits := by
      rw [digitsNumber_cons, List.length_cons, Nat.pow_succ]
      ring
    have next : significand * 10 + digitValue b ≤ greatestWord64 := by
      refine le_trans ?_ (parts ▸ fits)
      exact (Nat.le_mul_of_pos_right _ (Nat.pow_pos (by decide))).trans (Nat.le_add_right _ _)
    rw [parts] at fits ⊢
    simp only [absorb, next, if_true, ih fits, List.length_cons]

theorem absorb_decimalBytes {n : Nat} (fits : n ≤ greatestWord64) :
    absorb 0 (decimalBytes n) = (n, (decimalBytes n).length) := by
  have number : 0 * 10 ^ (decimalBytes n).length + digitsNumber (decimalBytes n) = n := by
    rw [Nat.zero_mul, Nat.zero_add, digitsNumber_decimalBytes]
  have taken := absorb_of_lt (number.trans_le fits)
  rwa [number] at taken

/-- Digits before the point: a zero alone, or digits that do not start with one. -/
def IsWhole (digits : Bytes) : Prop :=
  digits = [zero] ∨
    ∃ b more, digits = b :: more ∧ b ≠ zero ∧ ∀ c ∈ b :: more, isDigit c = true

theorem IsWhole.areDigits {digits : Bytes} (whole : IsWhole digits) :
    ∀ c ∈ digits, isDigit c = true := by
  rcases whole with rfl | ⟨b, more, rfl, -, areDigits⟩
  · exact List.forall_mem_singleton.mpr rfl
  · exact areDigits

theorem wholeDigits_append {digits rest : Bytes} (whole : IsWhole digits)
    (ends : EndsDigits rest) : wholeDigits (digits ++ rest) = .ok (digits, rest) := by
  rcases whole with rfl | ⟨b, more, rfl, notZero, areDigits⟩
  · cases rest with
    | nil => rfl
    | cons c rest => simp [wholeDigits, ends c rfl]
  · have moreDigits : ∀ c ∈ more, isDigit c = true := fun c inside => areDigits c (by simp [inside])
    simp only [List.cons_append, wholeDigits, notZero, if_false, areDigits b (by simp), if_true,
      takeWhile_digits moreDigits ends, dropWhile_digits moreDigits ends]

theorem isWhole_decimalBytes (n : Nat) : IsWhole (decimalBytes n) := by
  by_cases positive : 0 < n
  · obtain ⟨b, digits, equal, notZero⟩ := decimalBytes_of_pos positive
    exact .inr ⟨b, digits, equal, notZero, fun c member => isDigit_of_mem_decimalBytes (equal ▸ member)⟩
  · obtain rfl : n = 0 := by omega
    exact .inl rfl

end FrameCourier.Document
