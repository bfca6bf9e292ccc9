import FrameCourier.Proofs.Document.Integers
import FrameCourier.Proofs.Document.Scaling

/-!
# Written reals are read

A number with a point or an exponent is read as a finite number: the digits that fit into the
significand are scaled by a power of ten, which does not lead beyond what is written.
-/

namespace FrameCourier.Document

open Ascii Number

/-! ## The significand -/

/-- Digits that are left out only make the significand smaller. -/
theorem absorb_le (digits : Bytes) {significand total count : Nat}
    (word : significand ≤ greatestWord64) (absorbed : absorb significand digits = (total, count)) :
    total ≤ greatestWord64 ∧ count ≤ digits.length ∧
      total * 10 ^ (digits.length - count) ≤
        significand * 10 ^ digits.length + digitsNumber digits := by
  induction digits generalizing significand count with
  | nil =>
    cases absorbed
    exact ⟨word, le_refl _, by simp⟩
  | cons b digits ih =>
    simp only [absorb] at absorbed
    split at absorbed
    · next fits =>
      rcases rest : absorb (significand * 10 + digitValue b) digits with ⟨whole, taken⟩
      rw [rest] at absorbed
      cases absorbed
      obtain ⟨totalWord, few, bound⟩ := ih fits rest
      refine ⟨totalWord, Nat.succ_le_succ few, ?_⟩
      rw [List.length_cons, Nat.add_sub_add_right, digitsNumber_cons]
      refine bound.trans (Nat.le_of_eq ?_)
      rw [Nat.pow_succ]
      ring
    · cases absorbed
      exact ⟨word, Nat.zero_le _, Nat.le_add_right _ _⟩

namespace Literal

/-- The rational that a literal stands for. -/
def size (l : Literal) : Rat :=
  digitsNumber (l.whole ++ l.fraction) * 10 ^ (l.exponent - l.fraction.length)

/-- A literal with few digits before the point is read as a finite number, unless its exponent
leads beyond `scalable`. -/
theorem exists_real? {l : Literal} (few : digitsNumber l.whole ≤ greatestWord64)
    (fits : 0 < l.exponent → l.size ≤ scalable) : ∃ y, l.real? = some y := by
  have wholeTaken : absorb 0 l.whole = (0 * 10 ^ l.whole.length + digitsNumber l.whole, _) :=
    absorb_of_lt (by simpa using few)
  rw [Nat.zero_mul, Nat.zero_add] at wholeTaken
  rcases absorbed : absorb (digitsNumber l.whole) l.fraction with ⟨significand, places⟩
  obtain ⟨word, few, bound⟩ := absorb_le l.fraction few absorbed
  have scaled : l.scaled = (significand,
      max leastInt32 (min greatestInt32 (l.exponent - places))) := by
    simp only [Literal.scaled, wholeTaken, absorbed]
    congr 3
    ring
  have scale : 0 ≤ max leastInt32 (min greatestInt32 (l.exponent - places)) →
      (significand : Rat) * 10 ^ max leastInt32 (min greatestInt32 (l.exponent - places)) ≤
        scalable := by
    intro upward
    have atMost : max leastInt32 (min greatestInt32 (l.exponent - places)) ≤
        l.exponent - places := by
      unfold leastInt32 at upward ⊢
      omega
    by_cases up : 0 < l.exponent
    · have digits : (significand : Rat) * 10 ^ ((l.fraction.length : Int) - places) ≤
          digitsNumber (l.whole ++ l.fraction) := by
        rw [← Int.ofNat_sub few, zpow_natCast, digitsNumber_append]
        exact_mod_cast bound
      calc (significand : Rat) * 10 ^ max leastInt32 (min greatestInt32 (l.exponent - places))
          ≤ significand * 10 ^ (l.exponent - places) :=
            mul_le_mul_of_nonneg_left (zpow_le_zpow_right₀ (by decide) atMost)
              (by exact_mod_cast Nat.zero_le _)
        _ = significand * 10 ^ ((l.fraction.length : Int) - places) *
              10 ^ (l.exponent - l.fraction.length) := by
            rw [mul_assoc, ← zpow_add₀ (by decide)]
            congr 2
            ring
        _ ≤ l.size := mul_le_mul_of_nonneg_right digits (ten_zpow_pos _).le
        _ ≤ scalable := fits up
    · have none : max leastInt32 (min greatestInt32 (l.exponent - places)) = 0 := by omega
      have most : greatestWord64 ≤ scalable := by decide +kernel
      rw [none, zpow_zero, mul_one]
      exact_mod_cast word.trans most
  obtain ⟨y, scaledTo⟩ := exists_scaleByTen word scale
  exact ⟨if l.negative then -y else y, by simp only [Literal.real?, scaled, scaledTo, Option.map]⟩

end Literal

/-! ## Reading literals -/

theorem endsDigits_point (s : Bytes) : EndsDigits (point :: s) := by
  rintro b ⟨⟩
  decide

theorem endsDigits_lowerE (s : Bytes) : EndsDigits (lowerE :: s) := by
  rintro b ⟨⟩
  decide

theorem endsDigits_nil : EndsDigits [] := by
  rintro b ⟨⟩

theorem fractionDigits_append {digits rest : Bytes} (some : digits ≠ [])
    (areDigits : ∀ c ∈ digits, isDigit c = true) (ends : EndsDigits rest) :
    fractionDigits (digits ++ rest) = .ok (digits, rest) := by
  unfold fractionDigits
  rw [takeWhile_digits areDigits ends, dropWhile_digits areDigits ends]
  split
  · exact absurd rfl some
  · rfl

theorem unsignedNumeral_point {negative : Bool} {whole fraction rest : Bytes}
    (isWhole : IsWhole whole) (some : fraction ≠ [])
    (areDigits : ∀ c ∈ fraction, isDigit c = true) (ends : EndsDigits rest) :
    unsignedNumeral negative (whole ++ point :: (fraction ++ rest)) =
      afterFraction negative whole fraction rest := by
  rw [unsignedNumeral, wholeDigits_append isWhole (endsDigits_point _)]
  exact afterWhole_point (fractionDigits_append some areDigits ends)

theorem unsignedNumeral_lowerE {negative : Bool} {whole : Bytes} (isWhole : IsWhole whole)
    (s : Bytes) : unsignedNumeral negative (whole ++ lowerE :: s) =
      exponentPart ⟨negative, whole, [], 0⟩ s := by
  rw [unsignedNumeral, wholeDigits_append isWhole (endsDigits_lowerE _)]
  rfl

/-- Digits of an exponent are all read, or as many as are needed to see that it is too large. -/
theorem exponentDigits_cases {digits : Bytes} (areDigits : ∀ c ∈ digits, isDigit c = true)
    (value : Nat) :
    exponentDigits value digits = (some (value * 10 ^ digits.length + digitsNumber digits), []) ∨
      greatestInt32 < ((value * 10 ^ digits.length + digitsNumber digits : Nat) : Int) ∧
        ∃ rest, exponentDigits value digits = (none, rest) ∧ rest.dropWhile isDigit = [] := by
  induction digits generalizing value with
  | nil => exact .inl (by simp [exponentDigits, digitsNumber])
  | cons b digits ih =>
    have restDigits : ∀ c ∈ digits, isDigit c = true := fun c inside => areDigits c (by simp [inside])
    have parts : value * 10 ^ (b :: digits).length + digitsNumber (b :: digits) =
        (value * 10 + digitValue b) * 10 ^ digits.length + digitsNumber digits := by
      rw [digitsNumber_cons, List.length_cons, Nat.pow_succ]
      ring
    rw [parts]
    unfold exponentDigits
    rw [if_pos (areDigits b (by simp))]
    by_cases fits : ((value * 10 + digitValue b : Nat) : Int) ≤ greatestInt32
    · simp only [fits, if_true]
      exact ih restDigits _
    · refine .inr ⟨?_, digits, by simp only [fits, if_false], ?_⟩
      · have grows : value * 10 + digitValue b ≤
            (value * 10 + digitValue b) * 10 ^ digits.length + digitsNumber digits :=
          (Nat.le_mul_of_pos_right _ (Nat.pow_pos (by decide))).trans (Nat.le_add_right _ _)
        omega
      · exact List.dropWhile_eq_nil_iff.mpr restDigits

theorem realNumber_of_real? {l : Literal} {y : Double} (read : l.real? = some y) (rest : Bytes) :
    realNumber l rest = .ok (.real y, rest) := by
  simp only [realNumber, read]

/-- What stands behind the sign of an exponent is read by its digits. -/
theorem exponentPart_digits {l : Literal} {sign : UInt8} {down : Bool}
    (signed : ∀ s, exponentSign (sign :: s) = (down, s)) (n : Nat) :
    exponentPart l (sign :: decimalBytes n) =
      withExponent l down (exponentDigits 0 (decimalBytes n)).1
        (exponentDigits 0 (decimalBytes n)).2 := by
  obtain ⟨b, digits, equal, digit⟩ := isDigit_head_decimalBytes n
  unfold exponentPart
  rw [signed, equal]
  simp only [digit, Bool.not_true, Bool.false_eq_true, if_false]

/-- Whatever the digits of a negative exponent, there is a number. -/
theorem exists_exponentPart_minus {l : Literal} (few : digitsNumber l.whole ≤ greatestWord64)
    (n : Nat) : ∃ y, exponentPart l (minus :: decimalBytes n) = .ok (.real y, []) := by
  have down : ∀ s, exponentSign (minus :: s) = (true, s) := fun _ => rfl
  rw [exponentPart_digits down]
  rcases exponentDigits_cases (fun _ => isDigit_of_mem_decimalBytes) 0 with read | ⟨-, rest, read, ends⟩
  · rw [read]
    obtain ⟨y, real⟩ := Literal.exists_real?
      (l := { l with exponent := -((0 * 10 ^ (decimalBytes n).length +
        digitsNumber (decimalBytes n) : Nat) : Int) }) few (fun up => absurd up (by simp))
    exact ⟨y, realNumber_of_real? real []⟩
  · rw [read]
    exact ⟨Binary.zero _ l.negative, by simp [withExponent, ends]⟩

theorem exists_exponentPart_plus {l : Literal} (few : digitsNumber l.whole ≤ greatestWord64)
    {n : Nat} (short : (n : Int) ≤ greatestInt32)
    (fits : Literal.size { l with exponent := n } ≤ scalable) :
    ∃ y, exponentPart l (plus :: decimalBytes n) = .ok (.real y, []) := by
  have up : ∀ s, exponentSign (plus :: s) = (false, s) := fun _ => rfl
  rw [exponentPart_digits up]
  rcases exponentDigits_cases (fun _ => isDigit_of_mem_decimalBytes) 0 with read | ⟨long, -⟩
  · rw [digitsNumber_decimalBytes, Nat.zero_mul, Nat.zero_add] at read
    rw [read]
    obtain ⟨y, real⟩ := Literal.exists_real? (l := { l with exponent := n }) few (fun _ => fits)
    exact ⟨y, realNumber_of_real? real []⟩
  · rw [digitsNumber_decimalBytes, Nat.zero_mul, Nat.zero_add] at long
    omega

end FrameCourier.Document
