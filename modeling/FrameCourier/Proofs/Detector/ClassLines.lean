import FrameCourier.Detector.Labels
import FrameCourier.Proofs.Text.Digits
import FrameCourier.Proofs.Text.Fields
import FrameCourier.Proofs.Text.Trimming
import FrameCourier.Proofs.Traversal

/-!
# Lines that name a class

A line names a class if it has four fields: a name, and the channels of a color.  White space around
a field is no part of it.  The first field that is no channel decides how a line of four fields is
wrong.
-/

namespace FrameCourier

open Text

namespace ColorLabel

/-! ## Channels -/

/-- A decimal numeral: digits, with or without a plus sign before them. -/
inductive IsNumeral : List Char → Nat → Prop where
  | plain {digits : List Char} (nonempty : digits ≠ []) (areDigits : AllDigits digits) :
    IsNumeral digits (Nat.ofDigitChars 10 digits 0)
  | plus {digits : List Char} (nonempty : digits ≠ []) (areDigits : AllDigits digits) :
    IsNumeral ('+' :: digits) (Nat.ofDigitChars 10 digits 0)

/-- A field with the value of a channel: a numeral up to 255 between white space. -/
def IsChannel (field : List Char) (value : UInt8) : Prop :=
  ∃ numeral, IsWithinBlanks numeral field ∧ IsNumeral numeral value.toNat

/-- What is behind a plus sign, if there is one. -/
def unsigned : List Char → List Char
  | '+' :: digits => digits
  | digits => digits

theorem eq_unsigned (cs : List Char) : cs = '+' :: unsigned cs ∨ cs = unsigned cs := by
  unfold unsigned
  split
  · exact .inl rfl
  · exact .inr rfl

theorem isNumeral_iff {cs : List Char} {n : Nat} : IsNumeral cs n ↔
    unsigned cs ≠ [] ∧ AllDigits (unsigned cs) ∧ Nat.ofDigitChars 10 (unsigned cs) 0 = n := by
  constructor
  · intro numeral
    cases numeral with
    | plain nonempty areDigits =>
      -- A plus sign is no digit, so there is none before digits.
      have same : unsigned cs = cs := by
        unfold unsigned
        split
        · exact absurd (areDigits '+' List.mem_cons_self) (by decide)
        · rfl
      rw [same]
      exact ⟨nonempty, areDigits, rfl⟩
    | plus nonempty areDigits => exact ⟨nonempty, areDigits, rfl⟩
  · intro ⟨nonempty, areDigits, value⟩
    rw [← value]
    rcases eq_unsigned cs with signed | plain
    · have numeral := IsNumeral.plus nonempty areDigits
      rwa [← signed] at numeral
    · have numeral := IsNumeral.plain nonempty areDigits
      rwa [← plain] at numeral ⊢

section

variable {channel : Channel} {field : List Char} {value : UInt8} {fault : LabelsFault}

theorem isChannel_iff : IsChannel field value ↔ IsNumeral (trim field) value.toNat := by
  simp only [IsChannel, isWithinBlanks_iff, exists_eq_left']

theorem readChannel_eq (channel : Channel) (field : List Char) :
    readChannel channel field =
      let digits := unsigned (trim field)
      let value := Nat.ofDigitChars 10 digits 0
      if digits.isEmpty || !digits.all Char.isDigit || 255 < value then .error (.badChannel channel)
      else .ok (UInt8.ofNat value) := by
  simp only [← digitsValue_eq]
  rfl

theorem readChannel_eq_ok_iff : readChannel channel field = .ok value ↔ IsChannel field value := by
  have below : value.toNat < 256 := value.toNat_lt
  rw [readChannel_eq, isChannel_iff, isNumeral_iff]
  dsimp only
  split
  · next wrong =>
    simp only [Bool.or_eq_true, List.isEmpty_iff, Bool.not_eq_true', decide_eq_true_eq] at wrong
    constructor
    · intro read
      cases read
    · intro ⟨nonempty, areDigits, same⟩
      rcases wrong with (nothing | noDigits) | above
      · exact absurd nothing nonempty
      · rw [List.all_eq_true.mpr areDigits] at noDigits
        cases noDigits
      · omega
  · next right =>
    simp only [Bool.or_eq_true, List.isEmpty_iff, Bool.not_eq_true', decide_eq_true_eq, not_or,
      Bool.not_eq_false, List.all_eq_true, Nat.not_lt] at right
    obtain ⟨⟨nonempty, areDigits⟩, fits⟩ := right
    rw [Except.ok.injEq, ← UInt8.toNat_inj, UInt8.toNat_ofNat_of_lt' (Nat.lt_succ_of_le fits)]
    constructor
    · intro same
      exact ⟨nonempty, areDigits, same⟩
    · intro ⟨_, _, same⟩
      exact same

theorem eq_badChannel_of_readChannel (failure : readChannel channel field = .error fault) :
    fault = .badChannel channel ∧ ∀ value, ¬IsChannel field value := by
  constructor
  · rw [readChannel_eq] at failure
    dsimp only at failure
    split at failure
    · cases failure
      rfl
    · cases failure
  · intro value isChannel
    rw [readChannel_eq_ok_iff.mpr isChannel] at failure
    cases failure

end

/-! ## Classes -/

/-- A line that names a class: a name without white space at its ends, and the three channels of a
color, each between white space. -/
inductive Names (line : List Char) (label : ColorLabel) : Prop where
  | of {name red green blue : List Char} (fields : IsFields line [name, red, green, blue])
    (named : IsWithinBlanks label.label.toList name) (isRed : IsChannel red label.color.red)
    (isGreen : IsChannel green label.color.green) (isBlue : IsChannel blue label.color.blue)

/-- A line that names no class, and how it is wrong: it has other than four fields, or else the
first field that should be a channel and is none decides. -/
inductive IsRefused (line : List Char) : LabelsFault → Prop where
  | malformed {fields : List (List Char)} (isFields : IsFields line fields)
    (count : fields.length ≠ 4) : IsRefused line (.malformedLine (String.ofList line))
  | red {name red green blue : List Char} (fields : IsFields line [name, red, green, blue])
    (wrong : ∀ value, ¬IsChannel red value) : IsRefused line (.badChannel .red)
  | green {name red green blue : List Char} (fields : IsFields line [name, red, green, blue])
    (isRed : ∃ value, IsChannel red value) (wrong : ∀ value, ¬IsChannel green value) :
    IsRefused line (.badChannel .green)
  | blue {name red green blue : List Char} (fields : IsFields line [name, red, green, blue])
    (isRed : ∃ value, IsChannel red value) (isGreen : ∃ value, IsChannel green value)
    (wrong : ∀ value, ¬IsChannel blue value) : IsRefused line (.badChannel .blue)

section

variable {line : List Char} {label : ColorLabel} {fault : LabelsFault}

theorem readFields_eq_ok_iff : readFields line = .ok label ↔ Names line label := by
  constructor
  · intro read
    unfold readFields at read
    split at read
    · next name red green blue fields =>
      obtain ⟨r, isRed, read⟩ := eq_ok_of_bind_eq_ok read
      obtain ⟨g, isGreen, read⟩ := eq_ok_of_bind_eq_ok read
      obtain ⟨b, isBlue, made⟩ := eq_ok_of_bind_eq_ok read
      cases made
      refine .of (isFields_iff.mpr fields) ?_ (readChannel_eq_ok_iff.mp isRed)
        (readChannel_eq_ok_iff.mp isGreen) (readChannel_eq_ok_iff.mp isBlue)
      rw [String.toList_ofList]
      exact isWithinBlanks_trim name
    · cases read
  · intro ⟨fields, named, isRed, isGreen, isBlue⟩
    rw [readFields, fields.splitOn_eq]
    dsimp only
    rw [readChannel_eq_ok_iff.mpr isRed, readChannel_eq_ok_iff.mpr isGreen,
      readChannel_eq_ok_iff.mpr isBlue, isWithinBlanks_iff.mp named, String.ofList_toList]
    rfl

theorem isRefused_of_readFields (failure : readFields line = .error fault) :
    IsRefused line fault := by
  unfold readFields at failure
  split at failure
  · next name red green blue pieces =>
    have fields := isFields_iff.mpr pieces
    rcases eq_error_of_bind_eq_error failure with wrong | ⟨r, redRead, failure⟩
    · obtain ⟨same, none⟩ := eq_badChannel_of_readChannel wrong
      rw [same]
      exact .red fields none
    have isRed := readChannel_eq_ok_iff.mp redRead
    rcases eq_error_of_bind_eq_error failure with wrong | ⟨g, greenRead, failure⟩
    · obtain ⟨same, none⟩ := eq_badChannel_of_readChannel wrong
      rw [same]
      exact .green fields ⟨r, isRed⟩ none
    have isGreen := readChannel_eq_ok_iff.mp greenRead
    rcases eq_error_of_bind_eq_error failure with wrong | ⟨b, _, made⟩
    · obtain ⟨same, none⟩ := eq_badChannel_of_readChannel wrong
      rw [same]
      exact .blue fields ⟨r, isRed⟩ ⟨g, isGreen⟩ none
    · cases made
  · next others =>
    cases failure
    refine .malformed (isFields_iff.mpr rfl) fun count => ?_
    match pieces : line.splitOn ',', count with
    | [name, red, green, blue], _ => exact others name red green blue pieces

theorem Names.not_allBlank (names : Names line label) : ¬AllBlank line := by
  obtain ⟨fields, -⟩ := names
  intro blank
  exact absurd (blank ',' fields.comma_mem) (by decide)

/-- A carriage return at the end of a line is white space behind its last field. -/
theorem Names.of_return (names : Names (line ++ ['\r']) label) : Names line label := by
  cases names with
  | @of name red green blue fields named isRed isGreen isBlue =>
    obtain ⟨before, last, split, fields'⟩ := fields.exists_of_concat (by decide)
    have pieces : [name, red, green] ++ [blue] = before ++ [last ++ ['\r']] := split
    obtain ⟨same, ended⟩ := List.append_inj' pieces rfl
    rw [← same] at fields'
    refine .of fields' named isRed isGreen ?_
    have returnBlank : AllBlank ['\r'] := by simp [AllBlank, isBlank]
    rwa [List.singleton_inj.mp ended, isChannel_iff, trim_append_of_allBlank returnBlank,
      ← isChannel_iff] at isBlue

end

end ColorLabel

end FrameCourier
