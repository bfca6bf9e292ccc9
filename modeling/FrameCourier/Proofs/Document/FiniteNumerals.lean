import FrameCourier.Proofs.Document.OneLine
import FrameCourier.Proofs.Document.Reals

/-!
# Finite numbers have numerals

Whatever finite number is written, some number is read for it.  The decimal that is written is at
most the upper end of the number, so scaling stays finite; the three greatest numbers are tried
one by one, because their upper ends are too near to what is infinite.
-/

namespace FrameCourier.Document

open Ascii Number

/-! ## Significant digits -/

/-- ASCII characters as bytes. -/
def charBytes (cs : List Char) : Bytes := cs.map fun c => c.toNat.toUInt8

/-- How many zeros end the digits of a number. -/
def trailingZeros (n : Nat) : Nat := ((Nat.toDigits 10 n).reverse.takeWhile (· == '0')).length

/-- The digits of a number without the zeros that end them. -/
def significant (n : Nat) : List Char :=
  (Nat.toDigits 10 n).take ((Nat.toDigits 10 n).length - trailingZeros n)

/-- Digits that do not start with a zero. -/
structure LeadingDigits (b : UInt8) (more : Bytes) : Prop where
  notZero : b ≠ zero
  areDigits : ∀ c ∈ b :: more, isDigit c = true

theorem trailingZeros_lt {n : Nat} (positive : 0 < n) :
    trailingZeros n < (Nat.toDigits 10 n).length := by
  obtain ⟨b, digits, bytes, notZero⟩ := decimalBytes_of_pos positive
  unfold decimalBytes at bytes
  cases written : Nat.toDigits 10 n with
  | nil => simp [written] at bytes
  | cons c cs =>
    rw [written, List.map_cons] at bytes
    have first : c ≠ '0' := by
      rintro rfl
      cases bytes
      exact notZero rfl
    have stops : ((c :: cs).reverse.takeWhile (· == '0')).length ≤ cs.length := by
      have some : (c == '0') = false := by simpa using first
      rw [List.reverse_cons, List.takeWhile_append]
      split
      · simp [some]
      · exact (List.takeWhile_prefix _).length_le.trans (by simp)
    rw [trailingZeros, written, List.length_cons]
    omega

theorem charBytes_significant {n : Nat} (positive : 0 < n) :
    ∃ b more, charBytes (significant n) = b :: more ∧ LeadingDigits b more ∧
      digitsNumber (b :: more) * 10 ^ trailingZeros n ≤ n := by
  obtain ⟨b, digits, bytes, notZero⟩ := decimalBytes_of_pos positive
  obtain ⟨kept, count⟩ : ∃ kept, (Nat.toDigits 10 n).length - trailingZeros n = kept + 1 :=
    ⟨(Nat.toDigits 10 n).length - trailingZeros n - 1, by
      have some := trailingZeros_lt positive
      omega⟩
  have taken : charBytes (significant n) = (decimalBytes n).take (kept + 1) := by
    rw [charBytes, significant, count, List.map_take]
    rfl
  rw [bytes, List.take_succ_cons] at taken
  have areDigits : ∀ c ∈ b :: digits, isDigit c = true := fun c inside =>
    isDigit_of_mem_decimalBytes (bytes ▸ inside)
  refine ⟨b, digits.take kept, taken, ⟨notZero, fun c inside => areDigits c ?_⟩, ?_⟩
  · rcases List.mem_cons.mp inside with rfl | behind
    · simp
    · exact List.mem_cons_of_mem b (List.mem_of_mem_take behind)
  · have length : (decimalBytes n).length = (Nat.toDigits 10 n).length := by simp [decimalBytes]
    have whole : b :: digits.take kept ++ digits.drop kept = decimalBytes n := by
      rw [bytes, List.cons_append, List.take_append_drop]
    have left : (digits.drop kept).length = trailingZeros n := by
      have some := trailingZeros_lt positive
      rw [bytes, List.length_cons] at length
      rw [List.length_drop]
      omega
    have value := digitsNumber_decimalBytes n
    rw [← whole, digitsNumber_append, left] at value
    omega

theorem decimalText_of_pos {decimal : Decimal} (positive : 0 < decimal.digits) :
    Layout.document.decimalText decimal =
      if -5 ≤ decimal.exponent + trailingZeros decimal.digits +
            (significant decimal.digits).length - 1 &&
          decimal.exponent + trailingZeros decimal.digits +
            (significant decimal.digits).length - 1 ≤ 15 then
        Layout.document.positionalText (significant decimal.digits)
          (decimal.exponent + trailingZeros decimal.digits)
      else
        Layout.scientificText (significant decimal.digits)
          (decimal.exponent + trailingZeros decimal.digits +
            (significant decimal.digits).length - 1) := by
  have some : decimal.digits ≠ 0 := by omega
  simp only [Layout.decimalText, some, if_false]
  rfl

/-! ## Positional numbers -/

/-- Up to sixteen digits before the point. -/
theorem exists_numeral_point {negative : Bool} {whole fraction : Bytes} (isWhole : IsWhole whole)
    (short : whole.length ≤ 16) (some : fraction ≠ [])
    (areDigits : ∀ c ∈ fraction, isDigit c = true) :
    ∃ y, unsignedNumeral negative (whole ++ point :: fraction) = .ok (.real y, []) := by
  have few : digitsNumber whole ≤ greatestWord64 := by
    have bound := digitsNumber_lt isWhole.areDigits
    have power : 10 ^ whole.length ≤ 10 ^ 16 := Nat.pow_le_pow_right (by decide) short
    have word : 10 ^ 16 ≤ greatestWord64 := by decide
    omega
  have read : unsignedNumeral negative (whole ++ point :: (fraction ++ [])) = _ :=
    unsignedNumeral_point isWhole some areDigits endsDigits_nil
  obtain ⟨y, real⟩ := Literal.exists_real? (l := ⟨negative, whole, fraction, 0⟩) few
    (fun up => absurd up (by simp))
  rw [List.append_nil] at read
  exact ⟨y, read.trans (realNumber_of_real? real [])⟩

theorem exists_numeral_positional {negative : Bool} {digits : List Char} {b : UInt8} {more : Bytes}
    (bytes : charBytes digits = b :: more) (leading : LeadingDigits b more) {exponent : Int}
    (short : exponent + digits.length - 1 ≤ 15) :
    ∃ y, unsignedNumeral negative
      (charBytes (Layout.document.positionalText digits exponent)) = .ok (.real y, []) := by
  have length : digits.length = more.length + 1 := by
    simpa [charBytes] using congrArg List.length bytes
  unfold Layout.positionalText
  split
  · next upward =>
    have parts : charBytes (digits ++ List.replicate exponent.toNat '0' ++ ['.', '0']) =
        (b :: (more ++ List.replicate exponent.toNat zero)) ++ point :: [zero] := by
      unfold charBytes at bytes ⊢
      rw [List.map_append, List.map_append, bytes, List.map_replicate]
      simp
    show ∃ y, unsignedNumeral negative (charBytes (digits ++ _ ++ ['.', '0'])) = _
    rw [parts]
    refine exists_numeral_point (.inr ⟨b, _, rfl, leading.notZero, fun c inside => ?_⟩) ?_
      (by simp) (List.forall_mem_singleton.mpr rfl)
    · rw [← List.cons_append, List.mem_append] at inside
      rcases inside with digit | zeros
      · exact leading.areDigits c digit
      · rw [List.eq_of_mem_replicate zeros]
        rfl
    · simp only [List.length_cons, List.length_append, List.length_replicate]
      omega
  simp only
  split
  · next inside =>
    obtain ⟨kept, count⟩ : ∃ kept, digits.length - (-exponent).toNat = kept + 1 :=
      ⟨digits.length - (-exponent).toNat - 1, by omega⟩
    have parts : charBytes (digits.take (digits.length - (-exponent).toNat) ++
          '.' :: digits.drop (digits.length - (-exponent).toNat)) =
        (b :: more.take kept) ++ point :: more.drop kept := by
      unfold charBytes at bytes ⊢
      rw [count, List.map_append, List.map_cons, List.map_take, List.map_drop, bytes]
      rfl
    rw [parts]
    refine exists_numeral_point (.inr ⟨b, _, rfl, leading.notZero, fun c taken => ?_⟩) ?_ ?_
      fun c dropped => ?_
    · rcases List.mem_cons.mp taken with rfl | behind
      · exact leading.areDigits c (by simp)
      · exact leading.areDigits c (List.mem_cons_of_mem b (List.mem_of_mem_take behind))
    · simp only [List.length_cons, List.length_take]
      omega
    · rw [ne_eq, List.drop_eq_nil_iff]
      omega
    · exact leading.areDigits c (List.mem_cons_of_mem b (List.mem_of_mem_drop dropped))
  · have parts : charBytes ('0' :: '.' ::
          (List.replicate ((-exponent).toNat - digits.length) '0' ++ digits)) =
        [zero] ++ point :: (List.replicate ((-exponent).toNat - digits.length) zero ++ b :: more) := by
      unfold charBytes at bytes ⊢
      rw [List.map_cons, List.map_cons, List.map_append, bytes, List.map_replicate]
      rfl
    rw [parts]
    refine exists_numeral_point (.inl rfl) (by simp) (by simp) fun c inside => ?_
    rcases List.mem_append.mp inside with zeros | digit
    · rw [List.eq_of_mem_replicate zeros]
      rfl
    · exact leading.areDigits c digit

/-! ## Numbers with an exponent -/

theorem charBytes_scientificText {digits : List Char} {b : UInt8} {more : Bytes}
    (bytes : charBytes digits = b :: more) (leading : Int) :
    charBytes (Layout.scientificText digits leading) =
      [b] ++ ((if more.isEmpty then [] else point :: more) ++
        lowerE :: (if leading < 0 then minus else plus) :: decimalBytes leading.natAbs) := by
  cases digits with
  | nil => cases bytes
  | cons c cs =>
    simp only [charBytes, List.map_cons, List.cons.injEq] at bytes
    obtain ⟨rfl, rfl⟩ := bytes
    unfold charBytes Layout.scientificText decimalBytes
    cases cs with
    | nil =>
      split <;> simp
    | cons d cs =>
      split <;> simp

/-- One digit before the point, and an exponent. -/
theorem unsignedNumeral_scientific {negative : Bool} {b : UInt8} {more : Bytes}
    (leading : LeadingDigits b more) (s : Bytes) :
    unsignedNumeral negative ([b] ++ ((if more.isEmpty then [] else point :: more) ++ lowerE :: s)) =
      exponentPart ⟨negative, [b], more, 0⟩ s := by
  have digit := leading.areDigits b (by simp)
  have isWhole : IsWhole [b] := .inr ⟨b, [], rfl, leading.notZero, by simpa using digit⟩
  cases more with
  | nil => exact unsignedNumeral_lowerE isWhole s
  | cons c more =>
    have areDigits : ∀ d ∈ c :: more, isDigit d = true := fun d inside =>
      leading.areDigits d (List.mem_cons_of_mem b inside)
    exact unsignedNumeral_point isWhole (by simp) areDigits (endsDigits_lowerE s)

theorem exists_numeral_scientific {negative : Bool} {digits : List Char} {b : UInt8} {more : Bytes}
    (bytes : charBytes digits = b :: more) (leading : LeadingDigits b more) {exponent : Int}
    (fits : (digitsNumber (b :: more) : Rat) * 10 ^ exponent ≤ scalable) :
    ∃ y, unsignedNumeral negative
      (charBytes (Layout.scientificText digits (exponent + digits.length - 1))) =
        .ok (.real y, []) := by
  have length : digits.length = more.length + 1 := by
    simpa [charBytes] using congrArg List.length bytes
  have few : digitsNumber [b] ≤ greatestWord64 := by
    have small : digitsNumber [b] < 10 ^ 1 :=
      digitsNumber_lt (by simpa using leading.areDigits b (by simp))
    have word : 10 ^ 1 ≤ greatestWord64 := by decide
    exact (small.trans_le word).le
  rw [charBytes_scientificText bytes, unsignedNumeral_scientific leading]
  split
  · exact exists_exponentPart_minus few _
  · next upward =>
    have magnitude : (((exponent + digits.length - 1).natAbs : Nat) : Int) =
        exponent + more.length := by omega
    have short : (((exponent + digits.length - 1).natAbs : Nat) : Int) ≤ greatestInt32 := by
      have power : ((tenTo (exponent + digits.length - 1).natAbs : Nat) : Rat) ≤ scalable := by
        have digitPlaces : ((10 ^ more.length : Nat) : Rat) ≤ digitsNumber (b :: more) := by
          exact_mod_cast le_digitsNumber (leading.areDigits b (by simp)) leading.notZero
        calc ((tenTo (exponent + digits.length - 1).natAbs : Nat) : Rat)
            = 10 ^ (((exponent + digits.length - 1).natAbs : Nat) : Int) := by
              rw [zpow_natCast]
              exact_mod_cast rfl
          _ = ((10 ^ more.length : Nat) : Rat) * 10 ^ exponent := by
              rw [magnitude, zpow_add₀ (by decide), mul_comm, zpow_natCast]
              push_cast
              rfl
          _ ≤ digitsNumber (b :: more) * 10 ^ exponent :=
              mul_le_mul_of_nonneg_right digitPlaces (ten_zpow_pos _).le
          _ ≤ scalable := fits
      have most := le_of_tenTo_le_scalable (by exact_mod_cast power)
      unfold greatestInt32
      omega
    refine exists_exponentPart_plus few short ?_
    simp only [Literal.size, magnitude]
    rw [Int.add_sub_cancel]
    exact fits

/-! ## The numeral of a number -/

/-- A decimal up to `scalable` is read as a finite number. -/
theorem exists_numeral_decimalText {decimal : Decimal} (fits : decimal.value ≤ scalable)
    (negative : Bool) :
    ∃ y, unsignedNumeral negative (charBytes (Layout.document.decimalText decimal)) =
      .ok (.real y, []) := by
  by_cases positive : 0 < decimal.digits
  · obtain ⟨b, more, bytes, leading, bound⟩ := charBytes_significant positive
    rw [decimalText_of_pos positive]
    split
    · next positional =>
      simp only [Bool.and_eq_true, decide_eq_true_eq] at positional
      exact exists_numeral_positional bytes leading positional.2
    · refine exists_numeral_scientific bytes leading (le_trans ?_ fits)
      rw [zpow_add₀ (by decide), mul_comm ((10 : Rat) ^ decimal.exponent), ← mul_assoc, zpow_natCast]
      refine mul_le_mul_of_nonneg_right ?_ (ten_zpow_pos _).le
      exact_mod_cast bound
  · have none : decimal.digits = 0 := by omega
    have text : Layout.document.decimalText decimal = ['0', '.', '0'] := by
      simp [Layout.decimalText, none, Layout.document, Layout.positionalText]
    rw [text]
    have isWhole : IsWhole [zero] := .inl rfl
    exact exists_numeral_point isWhole (by simp) (by simp) (List.forall_mem_singleton.mpr rfl)

/-- The upper end of all but the three greatest numbers is at most `scalable`. -/
theorem upperEnd_le_scalable {code : Nat} (below : code < Format.double.infinityCode - 3) :
    Format.double.upperEnd code ≤ scalable := by
  rw [← magnitude_eq_scalable]
  exact (Format.upperEnd_le code).trans (Format.magnitude_mono below)

/-- Whether some number is read from the numeral of a number. -/
def hasNumeral (x : Double) : Bool :=
  match numeral (numberLiteral (.real x)) with
  | .ok (.real _, []) => true
  | _ => false

theorem exists_of_hasNumeral {x : Double} (has : hasNumeral x = true) :
    ∃ y, numeral (numberLiteral (.real x)) = .ok (.real y, []) := by
  unfold hasNumeral at has
  split at has
  · next y read => exact ⟨y, read⟩
  · cases has

/-- The three greatest numbers and their negatives. -/
theorem hasNumeral_greatest : ∀ negative : Bool, ∀ n < 3,
    hasNumeral ⟨negative, Format.double.infinityCode - 1 - n,
      Nat.lt_of_le_of_lt (by omega) Format.double.infinityCode_lt_codes⟩ = true := by
  decide +kernel

/-- The decimal that a finite number is written with. -/
def writtenDecimal (x : Double) : Decimal :=
  if x.isZero then ⟨0, 0⟩ else Format.double.shortest .even x.code

theorem numberLiteral_of_isFinite {x : Double} (finite : x.isFinite = true) :
    numberLiteral (.real x) = (if x.negative then [minus] else []) ++
      charBytes (Layout.document.decimalText (writtenDecimal x)) := by
  have number : x.isNotANumber = false := by
    simp only [Binary.isFinite, decide_eq_true_eq] at finite
    simp only [Binary.isNotANumber, decide_eq_false_iff_not]
    omega
  have notInfinite : x.isInfinite = false := by
    simp only [Binary.isFinite, decide_eq_true_eq] at finite
    simp only [Binary.isInfinite, decide_eq_false_iff_not]
    omega
  have text : x.text .document = String.ofList ((if x.negative then ['-'] else []) ++
      Layout.document.decimalText (writtenDecimal x)) := by
    simp only [Binary.text, number, notInfinite, Bool.false_eq_true, if_false, writtenDecimal]
    split <;> rfl
  rw [numberLiteral, text, ofText_ofList_of_isNumberChar (isNumberChar_of_mem_signed fun c member =>
    isNumberChar_of_mem_decimalText member), List.map_append, charBytes]
  split <;> rfl

theorem value_writtenDecimal_le {x : Double} (below : x.code < Format.double.infinityCode - 3) :
    (writtenDecimal x).value ≤ scalable := by
  unfold writtenDecimal
  split
  · simp only [Decimal.value, Nat.cast_zero, zero_mul]
    exact Nat.cast_nonneg _
  · exact (Format.value_shortest_le x.code).trans (upperEnd_le_scalable below)

theorem numeral_of_unsignedNumeral {s rest : Bytes} {n : Numeral}
    (read : unsignedNumeral false s = .ok (n, rest)) : numeral s = .ok (n, rest) := by
  unfold numeral
  split
  · cases read
  · exact read

/-- Some number is read from the numeral of a finite number. -/
theorem exists_numeral_real {x : Double} (finite : x.isFinite = true) :
    ∃ y, numeral (numberLiteral (.real x)) = .ok (.real y, []) := by
  by_cases below : x.code < Format.double.infinityCode - 3
  · obtain ⟨y, read⟩ := exists_numeral_decimalText (value_writtenDecimal_le below) x.negative
    refine ⟨y, ?_⟩
    rw [numberLiteral_of_isFinite finite]
    cases negative : x.negative with
    | true =>
      rw [negative] at read
      exact read
    | false =>
      rw [negative] at read
      exact numeral_of_unsignedNumeral read
  · obtain ⟨negative, code, small⟩ := x
    simp only [Binary.isFinite, decide_eq_true_eq] at finite below
    obtain ⟨n, few, rfl⟩ : ∃ n < 3, code = Format.double.infinityCode - 1 - n :=
      ⟨Format.double.infinityCode - 1 - code, by omega, by omega⟩
    exact exists_of_hasNumeral (hasNumeral_greatest negative n few)

end FrameCourier.Document
