import FrameCourier.Document.Printer
import FrameCourier.Proofs.Text.Bytes

/-!
# Compact documents have no control characters

Control characters in texts are escaped, and nothing else in a compact document is one.  So
there is no line feed in it, and no end marker either.
-/

namespace FrameCourier.Document

open Ascii

/-- Whether a byte is no control character. -/
def isPlain (b : UInt8) : Bool := space ≤ b

/-- Bytes without control characters. -/
def OneLine (s : Bytes) : Prop := ∀ b ∈ s, isPlain b = true

instance (s : Bytes) : Decidable (OneLine s) := List.decidableBAll _ s

theorem OneLine.append {s t : Bytes} (left : OneLine s) (right : OneLine t) : OneLine (s ++ t) := by
  intro b member
  rcases List.mem_append.mp member with inside | inside
  · exact left b inside
  · exact right b inside

theorem OneLine.cons {b : UInt8} {s : Bytes} (first : isPlain b = true) (rest : OneLine s) :
    OneLine (b :: s) := by
  intro c member
  rcases List.mem_cons.mp member with rfl | inside
  · exact first
  · exact rest c inside

theorem oneLine_nil : OneLine [] := fun b member => by cases member

theorem OneLine.lineFeed_not_mem {s : Bytes} (line : OneLine s) : lineFeed ∉ s := fun member =>
  absurd (line lineFeed member) (by decide)

theorem OneLine.joined {separator : Bytes} (line : OneLine separator) {parts : List Bytes}
    (lines : ∀ part ∈ parts, OneLine part) : OneLine (Document.joined separator parts) := by
  fun_induction Document.joined separator parts with
  | case1 => exact oneLine_nil
  | case2 part => exact lines part (by simp)
  | case3 part rest notEmpty ih =>
    refine ((lines part (by simp)).append line).append (ih fun other member => ?_)
    exact lines other (by simp [member])

/-! ## Texts -/

theorem isPlain_hexDigit {n : Nat} (small : n < 16) : isPlain (hexDigit n) = true := by
  have all : ∀ n < 16, isPlain (hexDigit n) = true := by decide
  exact all n small

theorem oneLine_escapedByte (b : UInt8) : OneLine (escapedByte b) := by
  unfold escapedByte
  split
  · decide
  split
  · decide
  split
  · decide
  split
  · decide
  split
  · decide
  split
  · decide
  split
  · decide
  split
  · next control =>
    have small : b.toNat < 32 := UInt8.lt_iff_toNat_lt.mp control
    have mark : OneLine [backslash, lowerU, zero, zero] := by decide
    have digits : OneLine [hexDigit (b.toNat / 16), hexDigit (b.toNat % 16)] :=
      .cons (isPlain_hexDigit (by omega)) (.cons (isPlain_hexDigit (by omega)) oneLine_nil)
    exact mark.append digits
  · next notControl =>
    exact .cons (decide_eq_true (UInt8.not_lt.mp notControl)) oneLine_nil

theorem oneLine_textLiteral (s : String) : OneLine (textLiteral s) := by
  have closing : OneLine [quote] := by decide
  refine .cons rfl (.append (fun b member => ?_) closing)
  obtain ⟨c, -, inside⟩ := List.mem_flatMap.mp member
  exact oneLine_escapedByte c b inside

/-! ## Numbers -/

/-- Whether a character may stand in a number, or in the word for one that is not finite. -/
def isNumberChar (c : Char) : Bool :=
  c.isDigit || c == '.' || c == '-' || c == '+' || c == 'e'

theorem isNumberChar_of_mem_toDigits {n : Nat} {c : Char} (member : c ∈ Nat.toDigits 10 n) :
    isNumberChar c = true := by
  simp [isNumberChar, Nat.isDigit_of_mem_toDigits (by decide) (by decide) member]

theorem isNumberChar_of_mem_positionalText {digits : List Char}
    (plain : ∀ c ∈ digits, isNumberChar c = true) {exponent : Int} {c : Char}
    (member : c ∈ Number.Layout.document.positionalText digits exponent) :
    isNumberChar c = true := by
  unfold Number.Layout.positionalText at member
  split at member
  · simp only [Number.Layout.document, if_true, List.mem_append, List.mem_replicate, List.mem_cons,
      List.not_mem_nil, or_false] at member
    rcases member with (inside | ⟨-, rfl⟩) | rfl | rfl
    · exact plain c inside
    all_goals rfl
  · simp only at member
    split at member
    · rcases List.mem_append.mp member with inside | inside
      · exact plain c (List.mem_of_mem_take inside)
      · rcases List.mem_cons.mp inside with rfl | behind
        · rfl
        · exact plain c (List.mem_of_mem_drop behind)
    · simp only [List.mem_cons, List.mem_append, List.mem_replicate] at member
      rcases member with rfl | rfl | ⟨-, rfl⟩ | inside
      · rfl
      · rfl
      · rfl
      · exact plain c inside

theorem isNumberChar_of_mem_scientificText {digits : List Char}
    (plain : ∀ c ∈ digits, isNumberChar c = true) {leading : Int} {c : Char}
    (member : c ∈ Number.Layout.scientificText digits leading) : isNumberChar c = true := by
  unfold Number.Layout.scientificText at member
  simp only [List.mem_append, List.mem_cons] at member
  rcases member with (first | fraction) | rfl | sign | power
  · exact plain c (List.mem_of_mem_take first)
  · split at fraction
    · cases fraction
    · rcases List.mem_cons.mp fraction with rfl | behind
      · rfl
      · exact plain c (List.mem_of_mem_drop behind)
  · rfl
  · split at sign <;>
      · subst sign
        rfl
  · exact isNumberChar_of_mem_toDigits power

theorem isNumberChar_of_mem_laidOut {digits : List Char}
    (plain : ∀ c ∈ digits, isNumberChar c = true) {positional : Bool} {exponent leading : Int}
    {c : Char}
    (member : c ∈ if positional then Number.Layout.document.positionalText digits exponent
      else Number.Layout.scientificText digits leading) : isNumberChar c = true := by
  split at member
  · exact isNumberChar_of_mem_positionalText plain member
  · exact isNumberChar_of_mem_scientificText plain member

theorem isNumberChar_of_mem_decimalText {decimal : Number.Decimal} {c : Char}
    (member : c ∈ Number.Layout.document.decimalText decimal) : isNumberChar c = true := by
  have plain : ∀ c ∈ (if decimal.digits = 0 then ['0'] else
      (Nat.toDigits 10 decimal.digits).take ((Nat.toDigits 10 decimal.digits).length -
        ((Nat.toDigits 10 decimal.digits).reverse.takeWhile (· == '0')).length)),
      isNumberChar c = true := by
    intro d inside
    split at inside
    · cases List.mem_singleton.mp inside
      rfl
    · exact isNumberChar_of_mem_toDigits (List.mem_of_mem_take inside)
  exact isNumberChar_of_mem_laidOut plain member

theorem isNumberChar_range {c : Char} (number : isNumberChar c = true) :
    32 ≤ c.toNat ∧ c.toNat < 128 := by
  simp only [isNumberChar, Bool.or_eq_true, beq_iff_eq] at number
  rcases number with (((digit | rfl) | rfl) | rfl) | rfl
  · simp only [Char.isDigit, Bool.and_eq_true, decide_eq_true_eq, UInt32.le_iff_toNat_le] at digit
    exact ⟨Nat.le_trans (by decide) digit.1, Nat.lt_of_le_of_lt digit.2 (by decide)⟩
  all_goals decide

/-- Number characters are bytes. -/
theorem ofText_ofList_of_isNumberChar {cs : List Char} (plain : ∀ c ∈ cs, isNumberChar c = true) :
    Bytes.ofText (String.ofList cs) = cs.map fun c => c.toNat.toUInt8 :=
  Bytes.ofText_ofList_of_ascii fun c member => (isNumberChar_range (plain c member)).2

/-- Bytes of number characters. -/
theorem oneLine_ofText_ofList {cs : List Char} (plain : ∀ c ∈ cs, isNumberChar c = true) :
    OneLine (Bytes.ofText (String.ofList cs)) := by
  rw [ofText_ofList_of_isNumberChar plain]
  intro b member
  obtain ⟨c, inside, rfl⟩ := List.mem_map.mp member
  obtain ⟨low, high⟩ := isNumberChar_range (plain c inside)
  refine decide_eq_true (UInt8.le_iff_toNat_le.mpr ?_)
  have same : c.toNat.toUInt8.toNat = c.toNat := by
    simp
    omega
  rw [same]
  exact low

theorem isNumberChar_of_mem_signed {b : Bool} {cs : List Char}
    (plain : ∀ c ∈ cs, isNumberChar c = true) :
    ∀ c ∈ (if b then ['-'] else []) ++ cs, isNumberChar c = true := by
  intro c member
  rcases List.mem_append.mp member with sign | inside
  · split at sign
    · cases List.mem_singleton.mp sign
      rfl
    · cases sign
  · exact plain c inside

theorem oneLine_integer (n : Int) : OneLine (numberLiteral (.integer n)) := by
  have digits : ∀ n : Nat, OneLine (Bytes.ofText (toString n)) := by
    intro n
    rw [Nat.toString_eq_ofList_toDigits]
    exact oneLine_ofText_ofList fun c member => isNumberChar_of_mem_toDigits member
  cases n with
  | ofNat n => exact digits n
  | negSucc n =>
    have written : toString (Int.negSucc n) = "-" ++ toString (n + 1) := rfl
    have sign : OneLine (Bytes.ofText "-") := by decide +kernel
    rw [numberLiteral, written, Bytes.ofText_append]
    exact sign.append (digits (n + 1))

theorem oneLine_numberLiteral (n : Numeral) : OneLine (numberLiteral n) := by
  have word : OneLine (Bytes.ofText "null") := by decide +kernel
  cases n with
  | integer n => exact oneLine_integer n
  | real x =>
    unfold numberLiteral Number.Binary.text
    simp only
    split
    · exact word
    split
    · exact (ite_self (c := x.negative = true) "null") ▸ word
    split
    · exact oneLine_ofText_ofList (isNumberChar_of_mem_signed fun c member =>
        isNumberChar_of_mem_decimalText member)
    · exact oneLine_ofText_ofList (isNumberChar_of_mem_signed fun c member =>
        isNumberChar_of_mem_decimalText member)

/-! ## Documents -/

mutual

/-- A compact document has no control characters. -/
theorem oneLine_compact : ∀ document : Document, OneLine document.compact
  | .null => by decide +kernel
  | .boolean true => by decide +kernel
  | .boolean false => by decide +kernel
  | .number n => oneLine_numberLiteral n
  | .text s => oneLine_textLiteral s
  | .list xs => by
    have separator : OneLine [comma] := by decide
    have closing : OneLine [closeBracket] := by decide
    exact .append (.cons rfl (separator.joined (oneLine_compactItems xs))) closing
  | .object members => by
    have separator : OneLine [comma] := by decide
    have closing : OneLine [closeBrace] := by decide
    exact .append (.cons rfl (separator.joined (oneLine_compactMembers members))) closing

theorem oneLine_compactItems : ∀ xs : List Document, ∀ part ∈ compactItems xs, OneLine part
  | [], part, member => by cases member
  | x :: xs, part, member => by
    rcases List.mem_cons.mp member with rfl | behind
    · exact oneLine_compact x
    · exact oneLine_compactItems xs part behind

theorem oneLine_compactMembers :
    ∀ members : List (String × Document), ∀ part ∈ compactMembers members, OneLine part
  | [], part, member => by cases member
  | (name, x) :: members, part, member => by
    rcases List.mem_cons.mp member with rfl | behind
    · exact (oneLine_textLiteral name).append (.cons rfl (oneLine_compact x))
    · exact oneLine_compactMembers members part behind

end

end FrameCourier.Document
