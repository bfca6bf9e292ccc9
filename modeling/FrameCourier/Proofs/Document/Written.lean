import FrameCourier.Proofs.Document.Depth
import FrameCourier.Proofs.Document.Grammatical
import FrameCourier.Proofs.Document.Members

/-!
# Values by their bytes

What is written tells what is read: the word for null is the only way to write it, an integer
without a sign is written with digits only, and of the members of an object the one that is found
by its name is the last one that was written under that name.
-/

namespace FrameCourier.Document

open Ascii Number

/-! ## Integers -/

theorem absorb_all {significand : Nat} {digits : Bytes}
    (all : digits.length ≤ (absorb significand digits).2) :
    (absorb significand digits).1 =
      significand * 10 ^ digits.length + digitsNumber digits := by
  induction digits generalizing significand with
  | nil => simp [absorb, digitsNumber]
  | cons b digits ih =>
    simp only [absorb] at all ⊢
    split at all
    · next fits =>
      rw [if_pos fits, ih (Nat.le_of_succ_le_succ all), digitsNumber_cons, List.length_cons,
        Nat.pow_succ]
      ring
    · cases all

/-- Digits without a sign are an integer, and no other number is one without a sign. -/
theorem numeral?_natCast {negative : Bool} {whole : Bytes} {n : Nat}
    (known : Literal.numeral? ⟨negative, whole, [], 0⟩ = some (.integer n)) :
    negative = false ∧ digitsNumber whole = n := by
  have noReal : ∀ x : Option Double, x.map Numeral.real ≠ some (.integer n) := by
    rintro (_ | _) equal <;> cases equal
  simp only [Literal.numeral?] at known
  split at known
  · exact absurd known (noReal _)
  · next all =>
    split at known
    · next positive =>
      have total := absorb_all (Nat.le_of_not_lt all)
      simp only [Option.some.injEq, Numeral.integer.injEq] at known
      refine ⟨by simpa using positive, ?_⟩
      rw [Nat.zero_mul, Nat.zero_add] at total
      rw [← total]
      exact Int.ofNat_inj.mp known
    · split at known
      · exact absurd known (noReal _)
      · next some =>
        simp only [Bool.or_eq_true, decide_eq_true_eq, not_or] at some
        simp only [Option.some.injEq, Numeral.integer.injEq] at known
        omega

theorem realNumber_real {l : Literal} {s rest : Bytes} {n : Numeral}
    (success : realNumber l s = .ok (n, rest)) : ∃ x, n = .real x := by
  unfold realNumber at success
  split at success <;> cases success
  exact ⟨_, rfl⟩

/-- With an exponent a number is no integer. -/
theorem exponentPart_real {l : Literal} {s rest : Bytes} {n : Numeral}
    (success : exponentPart l s = .ok (n, rest)) : ∃ x, n = .real x := by
  simp only [exponentPart] at success
  split at success
  · cases success
  · split at success
    · cases success
    · unfold withExponent at success
      split at success
      · exact realNumber_real success
      · split at success <;> cases success
        exact ⟨_, rfl⟩

theorem afterFraction_real {negative : Bool} {whole fraction s rest : Bytes} {n : Numeral}
    (success : afterFraction negative whole fraction s = .ok (n, rest)) : ∃ x, n = .real x := by
  unfold afterFraction at success
  split at success
  · exact exponentPart_real success
  · exact exponentPart_real success
  · exact realNumber_real success

/-- An integer ends with the digits before the point. -/
theorem afterWhole_integer {negative : Bool} {whole s rest : Bytes} {n : Int}
    (success : afterWhole negative whole s = .ok (.integer n, rest)) :
    rest = s ∧ Literal.numeral? ⟨negative, whole, [], 0⟩ = some (.integer n) := by
  have noReal : ¬ ∃ x, Numeral.integer n = .real x := by
    rintro ⟨x, equal⟩
    cases equal
  unfold afterWhole at success
  split at success
  · split at success
    · cases success
    · exact absurd (afterFraction_real success) noReal
  · exact absurd (exponentPart_real success) noReal
  · exact absurd (exponentPart_real success) noReal
  · split at success
    · next known =>
      cases success
      exact ⟨rfl, known⟩
    · cases success

theorem IsWhole.isDigits {t : Bytes} (whole : IsWhole t) : IsDigits t := by
  refine ⟨?_, whole.areDigits⟩
  rcases whole with rfl | ⟨b, more, rfl, -, -⟩ <;> simp

theorem isDigits_of_numeral {t : Bytes} {n : Nat} (read : numeral t = .ok (.integer n, [])) :
    IsDigits t ∧ digitsNumber t = n := by
  have unsigned : ∀ {negative : Bool} {s : Bytes},
      unsignedNumeral negative s = .ok (.integer n, []) →
        negative = false ∧ IsDigits s ∧ digitsNumber s = n := by
    intro negative s success
    unfold unsignedNumeral at success
    split at success
    · cases success
    · next whole left scanned =>
      obtain ⟨rfl, isWhole⟩ := wholeDigits_grammatical scanned
      obtain ⟨rfl, known⟩ := afterWhole_integer success
      obtain ⟨positive, number⟩ := numeral?_natCast known
      rw [List.append_nil]
      exact ⟨positive, isWhole.isDigits, number⟩
  unfold numeral at read
  split at read
  · cases (unsigned read).1
  · exact (unsigned read).2

/-- The digits of a number that fits 64 bits are read as it. -/
theorem numeral_of_isWhole {t : Bytes} (whole : IsWhole t)
    (fits : digitsNumber t ≤ greatestWord64) : numeral t = .ok (.integer (digitsNumber t), []) := by
  have ends : EndsNumber [] := fun b head => by cases head
  have absorbed : absorb 0 t = (digitsNumber t, t.length) := by
    have number : 0 * 10 ^ t.length + digitsNumber t = digitsNumber t := by omega
    have taken := absorb_of_lt (number.trans_le fits)
    rwa [number] at taken
  have known : Literal.numeral? ⟨false, t, [], 0⟩ = some (.integer (digitsNumber t)) := by
    simp [Literal.numeral?, absorbed]
  have passed := wholeDigits_append whole ends.endsDigits
  rw [List.append_nil] at passed
  obtain ⟨b, digits, rfl⟩ := List.exists_cons_of_ne_nil whole.isDigits.1
  rw [numeral_of_isDigit (whole.isDigits.2 b List.mem_cons_self)]
  simp only [unsignedNumeral, passed]
  exact afterWhole_of_endsNumber ends known

/-- A value that consists of digits has no leading zero. -/
theorem IsPhrase.isWhole {t : Bytes} (isValue : IsPhrase .value t) (digits : IsDigits t) :
    IsWhole t := by
  have absent : ∀ b, isDigit b = false → b ∉ t := by
    intro b notDigit inside
    rw [digits.2 b inside] at notDigit
    cases notDigit
  cases isValue with
  | text quoted =>
    obtain ⟨characters, rfl, -⟩ := quoted
    exact absurd List.mem_cons_self (absent quote (by decide))
  | list => exact absurd List.mem_cons_self (absent openBracket (by decide))
  | object => exact absurd List.mem_cons_self (absent openBrace (by decide))
  | scalar scalar =>
    rcases scalar with word | ⟨sign, whole, fraction, exponent, rfl, signs, isWhole, isFraction,
      isExponent⟩
    · have lettered : ∀ t ∈ words, ∃ b ∈ t, isDigit b = false := by decide +kernel
      obtain ⟨b, inside, notDigit⟩ := lettered t word
      exact absurd inside (absent b notDigit)
    · have unsigned : sign = [] := by
        rcases signs with rfl | rfl
        · rfl
        · exact absurd (by simp) (absent minus (by decide))
      have noFraction : fraction = [] := by
        rcases isFraction with rfl | ⟨digits, rfl, -⟩
        · rfl
        · exact absurd (by simp) (absent point (by decide))
      have noExponent : exponent = [] := by
        rcases isExponent with rfl | ⟨letter, sign, digits, rfl, letters, -, -⟩
        · rfl
        · refine absurd (by simp) (absent letter ?_)
          rcases letters with rfl | rfl <;> decide
      rwa [unsigned, noFraction, noExponent, List.nil_append, List.append_nil, List.append_nil]

/-! ## Values -/

/-- What starts with a digit is a number. -/
theorem value_of_isDigit {b : UInt8} (digit : isDigit b = true) (depth : Nat) (s : Bytes) :
    value (depth + 1) (b :: s) = (numeral (b :: s)).map fun (n, s) => (.number n, s) := by
  have inner := isInner_of_isDigit digit
  simp only [isInner, isDelimiter, Bool.and_eq_true, Bool.not_eq_true', Bool.or_eq_false_iff,
    bne_iff_ne] at inner
  obtain ⟨⟨⟨⟨⟨⟨⟨notBlank, -⟩, -⟩, -⟩, -⟩, notQuote⟩, notBracket⟩, notBrace⟩ := inner
  rw [value, valueWith, skipBlank_of_not_isBlank notBlank]
  simp [valueFrom, notQuote, notBracket, notBrace, digit]

/-- The bytes are a value and are read as the document. -/
structure IsWrittenAs (t : Bytes) (document : Document) : Prop where
  isValue : IsPhrase .value t
  reads : value depthLimit t = .ok (document, [])

/-- The text that is written, if it is one. -/
def textOf? (t : Bytes) : Option String :=
  match read? t with
  | some (.text s) => some s
  | _ => none

namespace IsWrittenAs

variable {t : Bytes} {document : Document} (written : IsWrittenAs t document)

include written

theorem read?_eq : read? t = some document :=
  read?_eq_some_iff.mpr ⟨[], written.reads, isBlank_nil⟩

theorem textOf?_eq_some_iff {s : String} : textOf? t = some s ↔ document = .text s := by
  rw [textOf?, written.read?_eq]
  cases document <;> simp

/-- What kind of value is written. -/
theorem kinds :
    (∃ s, document = .text s) ∨ (t.head? = some openBracket ∧ ∃ xs, document = .list xs) ∨
      (∃ parts members, IsObjectText parts t ∧ document = .object members) ∨
      (∃ n, numeral t = .ok (n, []) ∧ document = .number n) ∨ (t, document) ∈ wordDocuments := by
  obtain ⟨b, s, rfl, notBlank⟩ := written.isValue.isSolid
  have read : valueFrom (listBody (value (depthLimit - 1))) (objectBody (value (depthLimit - 1))) b s =
      .ok (document, []) := by
    have whole := written.reads
    rw [show depthLimit = depthLimit - 1 + 1 from rfl, value, valueWith,
      skipBlank_of_not_isBlank notBlank] at whole
    exact whole
  obtain ⟨-, decoded, -, rfl⟩ | ⟨rfl, list⟩ | ⟨rfl, object⟩ | number |
    ⟨word, inside, parts, rfl⟩ := valueFrom_cases read
  · exact .inl ⟨decoded, rfl⟩
  · obtain ⟨⟨xs, left⟩, -, success⟩ := eq_ok_of_bind_eq_ok list
    obtain ⟨after, -, success⟩ := eq_ok_of_bind_eq_ok success
    cases success
    exact .inr (.inl ⟨rfl, xs, rfl⟩)
  · obtain ⟨taken, parts, members, same, isObject, rfl, -⟩ :=
      objectBody_grammatical (takesValues _) object
    rw [List.append_nil] at same
    rw [same]
    exact .inr (.inr (.inl ⟨parts, members, isObject, rfl⟩))
  · exact .inr (.inr (.inr (.inl number)))
  · rw [List.append_nil] at parts
    rw [parts]
    exact .inr (.inr (.inr (.inr inside)))

/-- Null is written in one way. -/
theorem eq_null_iff : t = Bytes.ofText "null" ↔ document = .null := by
  constructor
  · rintro rfl
    have read : value depthLimit (Bytes.ofText "null") = .ok (.null, []) := rfl
    have same := written.reads
    rw [read] at same
    cases same
    rfl
  · rintro rfl
    obtain ⟨s, equal⟩ | ⟨-, xs, equal⟩ | ⟨_, members, _, equal⟩ | ⟨n, -, equal⟩ | word :=
      written.kinds
    · cases equal
    · cases equal
    · cases equal
    · cases equal
    · simpa [wordDocuments] using word

/-- An integer without a sign is written with its digits. -/
theorem digits_iff {n : Nat} (fits : n ≤ greatestWord64) :
    IsDigits t ∧ digitsNumber t = n ↔ document = .number (.integer n) := by
  constructor
  · rintro ⟨digits, rfl⟩
    have number := numeral_of_isWhole (written.isValue.isWhole digits) fits
    obtain ⟨b, s, rfl⟩ := List.exists_cons_of_ne_nil digits.1
    have read : value depthLimit (b :: s) =
        .ok (.number (.integer (digitsNumber (b :: s))), []) := by
      rw [show depthLimit = depthLimit - 1 + 1 from rfl,
        value_of_isDigit (digits.2 b List.mem_cons_self), number]
      rfl
    have same := written.reads
    rw [read] at same
    cases same
    rfl
  · rintro rfl
    obtain ⟨s, equal⟩ | ⟨-, xs, equal⟩ | ⟨_, members, _, equal⟩ | ⟨m, read, equal⟩ | word :=
      written.kinds
    · cases equal
    · cases equal
    · cases equal
    · cases equal
      exact isDigits_of_numeral read
    · simp [wordDocuments] at word

end IsWrittenAs

/-! ## Members by name -/

/-- What is written for the last member of a name. -/
def lastWritten? (parts : List (Bytes × Bytes)) (name : String) : Option Bytes :=
  (parts.reverse.find? fun part => textOf? part.1 == some name).map (·.2)

namespace ReadsPart

variable {part : Bytes × Bytes} {member : String × Document}
  (reads : ReadsPart (value (depthLimit - 1)) part member)

include reads

theorem textOf?_name : textOf? part.1 = some member.1 := by
  obtain ⟨s, named, read⟩ := reads.named
  have whole : value depthLimit (quote :: s) = .ok (.text member.1, []) := by
    rw [show depthLimit = depthLimit - 1 + 1 from rfl, value, valueWith,
      skipBlank_of_not_isBlank rfl]
    simp [valueFrom, read, Except.map]
  rw [named, textOf?, read?_eq_some_iff.mpr ⟨[], whole, isBlank_nil⟩]

theorem isWrittenAs : IsWrittenAs part.2 member.2 :=
  ⟨reads.isValue, value_takesOver (Nat.sub_le _ _) _ _ reads.reads⟩

end ReadsPart

/-- The first member of a name is found where the first one of it is written. -/
theorem find?_written {parts : List (Bytes × Bytes)} {members : Members}
    (each : List.Forall₂ (ReadsPart (value (depthLimit - 1))) parts members) (name : String) :
    Option.Rel IsWrittenAs
      ((parts.find? fun part => textOf? part.1 == some name).map (·.2)) (members.value? name) := by
  induction each with
  | nil => exact .none
  | @cons part member parts members reads _ ih =>
    rw [Members.value?_cons, List.find?_cons, reads.textOf?_name]
    by_cases same : name = member.1
    · rw [if_pos same, same, beq_self_eq_true]
      exact .some reads.isWrittenAs
    · have differs : (some member.1 == some name) = false := by simpa using Ne.symm same
      rw [if_neg same, differs]
      exact ih

theorem lastWritten?_rel {parts : List (Bytes × Bytes)} {members : Members}
    (each : List.Forall₂ (ReadsPart (value (depthLimit - 1))) parts members) (name : String) :
    Option.Rel IsWrittenAs (lastWritten? parts name) (Members.value? members.reverse name) :=
  find?_written (List.forall₂_reverse_iff.mpr each) name

end FrameCourier.Document
