import FrameCourier.Time.Notation
import Mathlib.Algebra.Ring.Nat
import Mathlib.Data.List.TakeWhile

/-!
# Digits are read as the number that they are written for

A number is padded with zeros before its decimal digits.  They do not change its value, and they
give it a fixed length as long as it has no more digits than that.
-/

namespace FrameCourier.Text

open Time

/-- Characters that are all digits. -/
def AllDigits (cs : List Char) : Prop := ∀ c ∈ cs, c.isDigit = true

/-- Characters that do not go on with a digit. -/
def EndsDigitChars (rest : List Char) : Prop := ∀ c, rest.head? = some c → c.isDigit = false

/-! ## Runs of digits -/

theorem takeWhile_digitChars {digits rest : List Char} (areDigits : AllDigits digits)
    (ends : EndsDigitChars rest) : (digits ++ rest).takeWhile Char.isDigit = digits := by
  rw [List.takeWhile_append_of_pos areDigits]
  cases rest with
  | nil => simp
  | cons c rest => simp [ends c rfl]

theorem dropWhile_digitChars {digits rest : List Char} (areDigits : AllDigits digits)
    (ends : EndsDigitChars rest) : (digits ++ rest).dropWhile Char.isDigit = rest := by
  rw [List.dropWhile_append_of_pos areDigits]
  cases rest with
  | nil => rfl
  | cons c rest => simp [ends c rfl]

/-- Digits are read up to the width if there are as many, or if no digit follows. -/
theorem digitsUpTo_append {width : Nat} {digits rest : List Char} (areDigits : AllDigits digits)
    (some : digits ≠ [])
    (fits : digits.length = width ∨ digits.length ≤ width ∧ EndsDigitChars rest) :
    digitsUpTo width (digits ++ rest) = .ok (digitsValue digits, rest) := by
  have taken : ((digits ++ rest).take width).takeWhile Char.isDigit = digits := by
    rcases fits with full | ⟨fits, ends⟩
    · rw [List.take_left' full]
      simpa [AllDigits] using areDigits
    · have restEnds : EndsDigitChars (rest.take (width - digits.length)) := by
        intro c head
        rw [List.head?_take] at head
        split at head
        · cases head
        · exact ends c head
      rw [List.take_append, List.take_of_length_le fits, takeWhile_digitChars areDigits restEnds]
  unfold digitsUpTo
  rw [taken]
  split
  · exact absurd rfl some
  · rw [List.drop_left]

/-! ## Values -/

theorem digitsValue_eq (digits : List Char) : digitsValue digits = Nat.ofDigitChars 10 digits 0 := by
  simp only [digitsValue, Nat.ofDigitChars, Nat.mul_comm 10]

theorem digitsValue_append (digits more : List Char) :
    digitsValue (digits ++ more) = 10 ^ more.length * digitsValue digits + digitsValue more := by
  simp only [digitsValue_eq, Nat.ofDigitChars_append]
  exact Nat.ofDigitChars_eq_ofDigitChars_zero

theorem digitsValue_toDigits (n : Nat) : digitsValue (Nat.toDigits 10 n) = n := by
  rw [digitsValue_eq, Nat.ofDigitChars_ten_toDigits]

theorem digitsValue_replicate_zero (n : Nat) : digitsValue (List.replicate n '0') = 0 := by
  rw [digitsValue_eq, Nat.ofDigitChars_replicate_zero, Nat.mul_zero]

/-! ## Padded numbers -/

theorem toList_padded (width n : Nat) : (padded width n).toList =
    List.replicate (width - (Nat.toDigits 10 n).length) '0' ++ Nat.toDigits 10 n := by
  simp [padded]

theorem digitsValue_padded (width n : Nat) : digitsValue (padded width n).toList = n := by
  rw [toList_padded, digitsValue_append, digitsValue_replicate_zero, digitsValue_toDigits,
    Nat.mul_zero, Nat.zero_add]

theorem allDigits_padded (width n : Nat) : AllDigits (padded width n).toList := by
  intro c inside
  rw [toList_padded, List.mem_append] at inside
  rcases inside with zero | digit
  · rw [List.eq_of_mem_replicate zero]
    rfl
  · exact Nat.isDigit_of_mem_toDigits (by decide) (by decide) digit

theorem padded_ne_nil (width n : Nat) : (padded width n).toList ≠ [] := by
  simp [toList_padded]

theorem length_padded {width n : Nat} (some : 0 < width) (fits : n < 10 ^ width) :
    (padded width n).toList.length = width := by
  have digits := (Nat.length_toDigits_le_iff (by decide : 1 < 10) some).mpr fits
  rw [toList_padded, List.length_append, List.length_replicate]
  omega

/-- A padded number of the full width is read as the number. -/
theorem digitsUpTo_padded {width n : Nat} (some : 0 < width) (fits : n < 10 ^ width)
    (rest : List Char) :
    digitsUpTo width ((padded width n).toList ++ rest) = .ok (n, rest) := by
  rw [digitsUpTo_append (allDigits_padded width n) (padded_ne_nil width n)
    (.inl (length_padded some fits)), digitsValue_padded]

end FrameCourier.Text
