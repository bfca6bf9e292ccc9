import FrameCourier.Proofs.Document.Locality.Basic

/-!
# Numbers are read locally

A number ends at the first byte that does not go on with it.  Its parts are taken in their
order: digits, a fraction, an exponent, each with the digits that it ends with.
-/

namespace FrameCourier.Document

open Ascii

theorem takeWhile_digits {digits other : Bytes} (areDigits : ∀ b ∈ digits, isDigit b = true)
    (ends : EndsDigits other) : (digits ++ other).takeWhile isDigit = digits := by
  rw [List.takeWhile_append_of_pos areDigits]
  cases other with
  | nil => simp
  | cons b other => simp [ends b rfl]

theorem dropWhile_digits {digits other : Bytes} (areDigits : ∀ b ∈ digits, isDigit b = true)
    (ends : EndsDigits other) : (digits ++ other).dropWhile isDigit = other := by
  rw [List.dropWhile_append_of_pos areDigits]
  cases other with
  | nil => rfl
  | cons b other => simp [ends b rfl]

theorem endsDigits_dropWhile (s : Bytes) : EndsDigits (s.dropWhile isDigit) := by
  intro b head
  have stops := List.head?_dropWhile_not isDigit s
  rw [head] at stops
  simpa using stops

theorem isDigit_of_mem_takeWhile {s : Bytes} : ∀ b ∈ s.takeWhile isDigit, isDigit b = true :=
  fun _ member => List.mem_takeWhile_imp member

/-- The digits before the point end where no digit follows. -/
theorem wholeDigits_local {s whole rest : Bytes} (success : wholeDigits s = .ok (whole, rest)) :
    EndsDigits rest ∧ ReadsLocally wholeDigits s whole rest EndsDigits := by
  cases s with
  | nil => cases success
  | cons b s =>
    simp only [wholeDigits] at success
    split at success
    · next isZero =>
      split at success
      · cases success
      · next noDigit =>
        have ends : EndsDigits s := by
          intro c head
          rw [head] at noDigit
          simpa using noDigit
        cases success
        refine ⟨ends, [b], rfl, ⟨b, rfl, by simp [isZero]; decide⟩, fun other otherEnds => ?_⟩
        cases other with
        | nil => simp [wholeDigits, isZero]
        | cons c other => simp [wholeDigits, isZero, otherEnds c rfl]
    · next notZero =>
      split at success
      · next digit =>
        cases success
        have areDigits : ∀ c ∈ b :: s.takeWhile isDigit, isDigit c = true := by
          simpa [digit] using fun c => isDigit_of_mem_takeWhile (s := s) c
        refine ⟨endsDigits_dropWhile s, b :: s.takeWhile isDigit, ?_,
          endsClosed_digits (by simp) areDigits, fun other otherEnds => ?_⟩
        · simp [List.takeWhile_append_dropWhile]
        · simp [wholeDigits, notZero, digit, takeWhile_digits isDigit_of_mem_takeWhile otherEnds,
            dropWhile_digits isDigit_of_mem_takeWhile otherEnds]
      · cases success

theorem fractionDigits_local {s fraction rest : Bytes}
    (success : fractionDigits s = .ok (fraction, rest)) :
    EndsDigits rest ∧ ReadsLocally fractionDigits s fraction rest EndsDigits := by
  unfold fractionDigits at success
  split at success
  · split at success <;> cases success
  · next digits some =>
    cases success
    refine ⟨endsDigits_dropWhile s, s.takeWhile isDigit, ?_,
      endsClosed_digits some isDigit_of_mem_takeWhile, fun other otherEnds => ?_⟩
    · exact List.takeWhile_append_dropWhile.symm
    · unfold fractionDigits
      rw [takeWhile_digits isDigit_of_mem_takeWhile otherEnds,
        dropWhile_digits isDigit_of_mem_takeWhile otherEnds]
      split
      · next none => exact absurd none some
      · rfl

/-- The digits of an exponent end where no digit follows, or where they are too many. -/
theorem exponentDigits_local {value : Nat} {s rest : Bytes} {found : Option Nat}
    (result : exponentDigits value s = (found, rest)) :
    ∃ taken, s = taken ++ rest ∧ (∀ b ∈ taken, isDigit b = true) ∧
      (found.isSome → EndsDigits rest) ∧
      ∀ other, (found.isSome → EndsDigits other) →
        exponentDigits value (taken ++ other) = (found, other) := by
  fun_induction exponentDigits value s with
  | case1 value =>
    cases result
    refine ⟨[], rfl, by simp, fun _ => by simp [EndsDigits], fun other ends => ?_⟩
    cases other with
    | nil => rfl
    | cons b other => simp [exponentDigits, ends rfl b rfl]
  | case2 value b s digit next fits ih =>
    obtain ⟨taken, rfl, areDigits, ends, reads⟩ := ih result
    refine ⟨b :: taken, rfl, by simpa [digit] using areDigits, ends, fun other otherEnds => ?_⟩
    rw [List.cons_append, exponentDigits, if_pos digit, if_pos fits]
    exact reads other otherEnds
  | case3 value b s digit next tooMany =>
    cases result
    refine ⟨[b], rfl, by simpa using digit, by simp, fun other _ => ?_⟩
    rw [List.singleton_append, exponentDigits, if_pos digit, if_neg tooMany]
  | case4 value b s notDigit =>
    cases result
    refine ⟨[], rfl, by simp, fun _ c head => ?_, fun other ends => ?_⟩
    · cases head
      simpa using notDigit
    · cases other with
      | nil => rfl
      | cons c other => simp [exponentDigits, ends rfl c rfl]

theorem exponentSign_digit {b : UInt8} (digit : isDigit b = true) (s : Bytes) :
    exponentSign (b :: s) = (false, b :: s) := by
  have notPlus : b ≠ plus := by
    rintro rfl
    exact absurd digit (by decide)
  have notMinus : b ≠ minus := by
    rintro rfl
    exact absurd digit (by decide)
  unfold exponentSign
  split
  · next equal => exact absurd (List.cons.inj equal).1 notPlus
  · next equal => exact absurd (List.cons.inj equal).1 notMinus
  · rfl

theorem exponentSign_local {s after : Bytes} {down : Bool} {b : UInt8}
    (signed : exponentSign s = (down, b :: after)) :
    ∃ sign, s = sign ++ b :: after ∧
      ∀ c other, isDigit c = true → exponentSign (sign ++ c :: other) = (down, c :: other) := by
  unfold exponentSign at signed
  split at signed
  · cases signed
    exact ⟨[plus], rfl, fun c other _ => rfl⟩
  · cases signed
    exact ⟨[minus], rfl, fun c other _ => rfl⟩
  · cases signed
    exact ⟨[], rfl, fun c other digit => exponentSign_digit digit other⟩

theorem realNumber_local {l : Literal} {s rest : Bytes} {n : Numeral}
    (success : realNumber l s = .ok (n, rest)) :
    rest = s ∧ ∀ other, realNumber l other = .ok (n, other) := by
  unfold realNumber at success ⊢
  split at success
  · next x known =>
    cases success
    exact ⟨rfl, fun other => rfl⟩
  · cases success

/-- What was left of an exponent whose digits are too many are digits that are passed over. -/
theorem withExponent_local {l : Literal} {down : Bool} {found : Option Nat} {s rest : Bytes}
    {n : Numeral} (success : withExponent l down found s = .ok (n, rest))
    (ends : found.isSome → EndsDigits s) :
    EndsDigits rest ∧ ∃ digits, s = digits ++ rest ∧ (∀ b ∈ digits, isDigit b = true) ∧
      (found.isSome → digits = []) ∧
      ∀ other, EndsDigits other → withExponent l down found (digits ++ other) = .ok (n, other) := by
  cases found with
  | some value =>
    obtain ⟨rfl, again⟩ := realNumber_local success
    exact ⟨ends rfl, [], rfl, by simp, fun _ => rfl, fun other _ => again other⟩
  | none =>
    simp only [withExponent] at success
    split at success
    · cases success
    · next inRange =>
      cases success
      refine ⟨endsDigits_dropWhile s, s.takeWhile isDigit, List.takeWhile_append_dropWhile.symm,
        isDigit_of_mem_takeWhile, by simp, fun other otherEnds => ?_⟩
      simp only [withExponent, inRange]
      rw [dropWhile_digits isDigit_of_mem_takeWhile otherEnds]
      rfl

theorem exponentPart_local {l : Literal} {s rest : Bytes} {n : Numeral}
    (success : exponentPart l s = .ok (n, rest)) :
    EndsDigits rest ∧ ReadsLocally (exponentPart l) s n rest EndsDigits := by
  rcases signed : exponentSign s with ⟨down, t⟩
  simp only [exponentPart, signed] at success
  cases t with
  | nil => cases success
  | cons b after =>
    simp only at success
    split at success
    · cases success
    · next isDigitNext =>
      have digit : isDigit b = true := by simpa using isDigitNext
      obtain ⟨sign, rfl, signs⟩ := exponentSign_local signed
      rcases scanned : exponentDigits 0 (b :: after) with ⟨found, left⟩
      rw [scanned] at success
      obtain ⟨taken, parts, areDigits, ends, reads⟩ := exponentDigits_local scanned
      obtain ⟨restEnds, digits, rfl, moreDigits, noMore, again⟩ := withExponent_local success ends
      obtain ⟨c, taken, rfl⟩ : ∃ c digits, taken = c :: digits := by
        cases taken with
        | nil =>
          -- Without a digit there would be an exponent of zero, and a digit after it.
          have none := reads [] fun _ => by simp [EndsDigits]
          cases none
          exact absurd (ends rfl b (by rw [← List.nil_append (digits ++ rest), ← parts]; rfl))
            (by simp [digit])
        | cons c digits => exact ⟨c, digits, rfl⟩
      have allDigits : ∀ d ∈ c :: taken ++ digits, isDigit d = true := by
        intro d member
        rcases List.mem_append.mp member with member | member
        · exact areDigits d member
        · exact moreDigits d member
      refine ⟨restEnds, sign ++ (c :: taken ++ digits), by simp [parts],
        (endsClosed_digits (by simp) allDigits).append sign, fun other otherEnds => ?_⟩
      have scannedAgain : exponentDigits 0 (c :: (taken ++ (digits ++ other))) =
          (found, digits ++ other) := by
        refine reads _ fun some => ?_
        rw [noMore some]
        exact otherEnds
      simp only [exponentPart, List.append_assoc, List.cons_append, signs c _ (areDigits c (by simp)),
        areDigits c (by simp), scannedAgain]
      exact again other otherEnds

/-- The number ends after its fraction, or an exponent follows. -/
theorem afterFraction_local {negative : Bool} {whole fraction s rest : Bytes} {n : Numeral}
    (success : afterFraction negative whole fraction s = .ok (n, rest)) (ends : EndsDigits s) :
    EndsDigits rest ∧ ∃ taken, s = taken ++ rest ∧ (taken = [] ∨ EndsClosed taken) ∧
      ∀ other, FitsNumber rest other →
        afterFraction negative whole fraction (taken ++ other) = .ok (n, other) := by
  unfold afterFraction at success
  split at success
  · obtain ⟨restEnds, taken, rfl, closed, reads⟩ := exponentPart_local success
    exact ⟨restEnds, lowerE :: taken, rfl, .inr (closed.append [lowerE]),
      fun other fit => reads other (fit.endsDigits restEnds)⟩
  · obtain ⟨restEnds, taken, rfl, closed, reads⟩ := exponentPart_local success
    exact ⟨restEnds, upperE :: taken, rfl, .inr (closed.append [upperE]),
      fun other fit => reads other (fit.endsDigits restEnds)⟩
  · next notLower notUpper =>
    obtain ⟨rfl, again⟩ := realNumber_local success
    refine ⟨ends, [], rfl, .inl rfl, fun other fit => ?_⟩
    unfold afterFraction
    split
    · next equal => exact absurd equal (fit.ne_cons (by simp) notLower _)
    · next equal => exact absurd equal (fit.ne_cons (by simp) notUpper _)
    · exact again _

theorem afterWhole_point {negative : Bool} {whole fraction s rest : Bytes}
    (scanned : fractionDigits s = .ok (fraction, rest)) :
    afterWhole negative whole (point :: s) = afterFraction negative whole fraction rest := by
  unfold afterWhole
  split
  · next equal =>
    cases equal
    rw [scanned]
  · next equal => exact absurd (List.cons.inj equal).1 (by decide)
  · next equal => exact absurd (List.cons.inj equal).1 (by decide)
  · next notPoint _ _ => exact absurd rfl (notPoint s)

/-- The number ends after the digits before the point, or a point or an exponent follows. -/
theorem afterWhole_local {negative : Bool} {whole s rest : Bytes} {n : Numeral}
    (success : afterWhole negative whole s = .ok (n, rest)) (ends : EndsDigits s) :
    EndsDigits rest ∧ ∃ taken, s = taken ++ rest ∧ (taken = [] ∨ EndsClosed taken) ∧
      ∀ other, FitsNumber rest other → afterWhole negative whole (taken ++ other) = .ok (n, other) := by
  unfold afterWhole at success
  split at success
  · next s =>
    split at success
    · cases success
    · next fraction left scanned =>
      obtain ⟨leftEnds, digits, rfl, digitsClosed, digitsRead⟩ := fractionDigits_local scanned
      obtain ⟨restEnds, taken, rfl, closed, reads⟩ := afterFraction_local success leftEnds
      refine ⟨restEnds, point :: (digits ++ taken), by simp, .inr ?_, fun other fit => ?_⟩
      · cases closed with
        | inl none =>
          rw [none, List.append_nil]
          exact digitsClosed.append [point]
        | inr takenClosed => exact takenClosed.append (point :: digits)
      · have otherEnds : EndsDigits (taken ++ other) := (fit.append taken).endsDigits leftEnds
        rw [List.cons_append, List.append_assoc]
        rw [afterWhole_point (digitsRead _ otherEnds)]
        exact reads other fit
  · obtain ⟨restEnds, taken, rfl, closed, reads⟩ := exponentPart_local success
    exact ⟨restEnds, lowerE :: taken, rfl, .inr (closed.append [lowerE]),
      fun other fit => reads other (fit.endsDigits restEnds)⟩
  · obtain ⟨restEnds, taken, rfl, closed, reads⟩ := exponentPart_local success
    exact ⟨restEnds, upperE :: taken, rfl, .inr (closed.append [upperE]),
      fun other fit => reads other (fit.endsDigits restEnds)⟩
  · next notPoint notLower notUpper =>
    split at success
    · next n known =>
      cases success
      refine ⟨ends, [], rfl, .inl rfl, fun other fit => ?_⟩
      unfold afterWhole
      split
      · next equal => exact absurd equal (fit.ne_cons (by simp) notPoint _)
      · next equal => exact absurd equal (fit.ne_cons (by simp) notLower _)
      · next equal => exact absurd equal (fit.ne_cons (by simp) notUpper _)
      · rw [known]
        rfl
    · cases success

theorem unsignedNumeral_local {negative : Bool} {s rest : Bytes} {n : Numeral}
    (success : unsignedNumeral negative s = .ok (n, rest)) :
    ReadsLocally (unsignedNumeral negative) s n rest (FitsNumber rest) := by
  unfold unsignedNumeral at success
  split at success
  · cases success
  · next whole left scanned =>
    obtain ⟨leftEnds, digits, rfl, digitsClosed, digitsRead⟩ := wholeDigits_local scanned
    obtain ⟨-, taken, rfl, closed, reads⟩ := afterWhole_local success leftEnds
    refine ⟨digits ++ taken, by simp, ?_, fun other fit => ?_⟩
    · cases closed with
      | inl none => simpa [none] using digitsClosed
      | inr takenClosed => exact takenClosed.append digits
    · have otherEnds : EndsDigits (taken ++ other) := (fit.append taken).endsDigits leftEnds
      simp only [unsignedNumeral, List.append_assoc, digitsRead _ otherEnds]
      exact reads other fit

theorem numeral_local {s rest : Bytes} {n : Numeral} (success : numeral s = .ok (n, rest)) :
    ReadsLocally numeral s n rest (FitsNumber rest) := by
  unfold numeral at success
  split at success
  · exact .cons (fun t => rfl) (unsignedNumeral_local success)
  · next unsigned =>
    obtain ⟨taken, rfl, closed, reads⟩ := unsignedNumeral_local success
    refine ⟨taken, rfl, closed, fun other fit => ?_⟩
    cases taken with
    | nil => exact absurd rfl closed.ne_nil
    | cons b taken =>
      unfold numeral
      split
      · next equal =>
        cases equal
        exact absurd rfl (unsigned _)
      · exact reads other fit

end FrameCourier.Document
