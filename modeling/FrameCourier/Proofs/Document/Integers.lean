import FrameCourier.Document.Printer
import FrameCourier.Proofs.Document.Digits
import FrameCourier.Proofs.Text.Bytes

/-!
# Integers are read as they are written

The decimal digits of a number are read back as the number, as long as it has 64 bits.
-/

namespace FrameCourier.Document

open Ascii

/-! ## Numbers without a point -/

theorem EndsNumber.endsDigits {rest : Bytes} (ends : EndsNumber rest) : EndsDigits rest :=
  fun b head => (ends b head).1

/-- A number that ends after the digits before the point. -/
theorem afterWhole_of_endsNumber {negative : Bool} {whole rest : Bytes} {n : Numeral}
    (ends : EndsNumber rest) (known : Literal.numeral? ⟨negative, whole, [], 0⟩ = some n) :
    afterWhole negative whole rest = .ok (n, rest) := by
  unfold afterWhole
  split
  · exact absurd rfl (ends point rfl).2.1
  · exact absurd rfl (ends lowerE rfl).2.2.1
  · exact absurd rfl (ends upperE rfl).2.2.2
  · rw [known]

theorem unsignedNumeral_decimalBytes {negative : Bool} {n : Nat} {found : Numeral} {rest : Bytes}
    (ends : EndsNumber rest)
    (known : Literal.numeral? ⟨negative, decimalBytes n, [], 0⟩ = some found) :
    unsignedNumeral negative (decimalBytes n ++ rest) = .ok (found, rest) := by
  rw [unsignedNumeral, wholeDigits_append (isWhole_decimalBytes n) ends.endsDigits]
  exact afterWhole_of_endsNumber ends known

/-! ## Integers -/

/-- A numeral that is read as it is written, before everything that does not go on with it. -/
def Numeral.ReadsBack (n : Numeral) : Prop :=
  ∀ rest, EndsNumber rest → numeral (numberLiteral n ++ rest) = .ok (n, rest)

/-- A number that is read alone is read before everything that does not go on with it. -/
theorem numeral_append {s : Bytes} {n : Numeral} (reads : numeral s = .ok (n, [])) {rest : Bytes}
    (ends : EndsNumber rest) : numeral (s ++ rest) = .ok (n, rest) := by
  obtain ⟨taken, written, -, readsBefore⟩ := numeral_local reads
  rw [written, List.append_nil]
  exact readsBefore rest (.inr ends)

/-- A numeral is read back before a rest if it is read back alone. -/
theorem Numeral.readsBack_of_numeral {n : Numeral} (read : numeral (numberLiteral n) = .ok (n, [])) :
    Numeral.ReadsBack n := fun _ ends => numeral_append read ends

theorem ofText_toString (n : Nat) : Bytes.ofText (toString n) = decimalBytes n := by
  rw [Nat.toString_eq_ofList_toDigits]
  refine Bytes.ofText_ofList_of_ascii fun c member => ?_
  have digit := Nat.isDigit_of_mem_toDigits (by decide) (by decide) member
  simp only [Char.isDigit, Bool.and_eq_true, decide_eq_true_eq, UInt32.le_iff_toNat_le] at digit
  exact Nat.lt_of_le_of_lt digit.2 (by decide)

theorem numberLiteral_natCast (n : Nat) : numberLiteral (.integer n) = decimalBytes n :=
  ofText_toString n

theorem numberLiteral_negSucc (n : Nat) :
    numberLiteral (.integer (.negSucc n)) = minus :: decimalBytes (n + 1) := by
  have written : toString (Int.negSucc n) = "-" ++ toString (n + 1) := rfl
  rw [numberLiteral, written, Bytes.ofText_append, ofText_toString]
  rfl

theorem isDigit_head_decimalBytes (n : Nat) :
    ∃ b digits, decimalBytes n = b :: digits ∧ isDigit b = true := by
  have some : decimalBytes n ≠ [] := by simp [decimalBytes]
  obtain ⟨b, digits, equal⟩ := List.exists_cons_of_ne_nil some
  exact ⟨b, digits, equal, isDigit_of_mem_decimalBytes (equal ▸ List.mem_cons_self)⟩

/-- A number that starts with a digit has no sign. -/
theorem numeral_of_isDigit {b : UInt8} (digit : isDigit b = true) (s : Bytes) :
    numeral (b :: s) = unsignedNumeral false (b :: s) := by
  have notMinus : b ≠ minus := by
    rintro rfl
    exact absurd digit (by decide)
  unfold numeral
  split
  · next equal => exact absurd (List.cons.inj equal).1 notMinus
  · rfl

/-- Integers of 64 bits, with or without a sign, are read as they are written. -/
theorem readsBack_integer {n : Int} (low : Number.leastInt64 ≤ n)
    (high : n ≤ Number.greatestWord64) : Numeral.ReadsBack (.integer n) := by
  intro rest ends
  cases n with
  | ofNat n =>
    have fits : n ≤ Number.greatestWord64 := by
      simpa using high
    obtain ⟨b, digits, equal, digit⟩ := isDigit_head_decimalBytes n
    have unsigned : numeral (decimalBytes n ++ rest) =
        unsignedNumeral false (decimalBytes n ++ rest) := by
      rw [equal]
      exact numeral_of_isDigit digit _
    have known : Literal.numeral? ⟨false, decimalBytes n, [], 0⟩ = some (.integer n) := by
      simp [Literal.numeral?, absorb_decimalBytes fits]
    rw [show Int.ofNat n = (n : Int) from rfl, numberLiteral_natCast, unsigned]
    exact unsignedNumeral_decimalBytes ends known
  | negSucc n =>
    have fits : n + 1 ≤ 0x8000000000000000 := by
      simp only [Number.leastInt64] at low
      omega
    have known : Literal.numeral? ⟨true, decimalBytes (n + 1), [], 0⟩ =
        some (.integer (.negSucc n)) := by
      have absorbed := absorb_decimalBytes (n := n + 1)
        (Nat.le_trans fits (by decide))
      have inRange : (decide (n + 1 = 0) || decide (-Number.leastInt64 < ((n + 1 : Nat) : Int))) =
          false := by
        unfold Number.leastInt64
        simp only [Bool.or_eq_false_iff, decide_eq_false_iff_not]
        omega
      simp only [Literal.numeral?, absorbed, Nat.lt_irrefl, if_false, inRange]
      rfl
    rw [numberLiteral_negSucc]
    exact unsignedNumeral_decimalBytes ends known

theorem readsBack_natCast {n : Nat} (fits : n ≤ Number.greatestWord64) :
    Numeral.ReadsBack (.integer n) := by
  have low : Number.leastInt64 ≤ n := by
    simp only [Number.leastInt64]
    omega
  exact readsBack_integer low (Int.ofNat_le.mpr fits)

end FrameCourier.Document
