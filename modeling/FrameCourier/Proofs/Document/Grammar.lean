import FrameCourier.Proofs.Document.Complete

/-!
# The grammar of documents

Which bytes are a document, apart from how they are read: the grammar sets no limit to the depth of
values or the size of numbers, and does not ask what escapes stand for.

The grammar is unambiguous.  A text, a list or an object ends at one place only, whatever follows
it, and a number or a word ends where a blank, a comma, a colon or a closing bracket or brace
follows.  So an object is no proper part of another one that starts at the same place, and its
members are the same in every way of taking it apart.
-/

namespace FrameCourier.Document

open Ascii

/-! ## Texts -/

/-- What may stand between the quotes of a text. -/
inductive IsCharacters : Bytes → Prop where
  | none : IsCharacters []
  | plain {b : UInt8} {s : Bytes} (notQuote : b ≠ quote) (notBackslash : b ≠ backslash)
    (notControl : ¬ b < space) (others : IsCharacters s) : IsCharacters (b :: s)
  | escape {b : UInt8} {s : Bytes} (letter : (simpleEscape? b).isSome = true)
    (others : IsCharacters s) : IsCharacters (backslash :: b :: s)
  | code {digits s : Bytes} (four : digits.length = 4)
    (hexadecimal : ∀ b ∈ digits, (hexValue? b).isSome = true) (others : IsCharacters s) :
    IsCharacters (backslash :: lowerU :: (digits ++ s))

/-- A text in its quotes. -/
def IsQuoted (t : Bytes) : Prop :=
  ∃ characters, t = quote :: (characters ++ [quote]) ∧ IsCharacters characters

/-- The first quote that is not escaped ends a text. -/
theorem IsCharacters.skipText {s : Bytes} (characters : IsCharacters s) (rest : Bytes) :
    skipText .plain (s ++ quote :: rest) = .ok rest := by
  induction characters with
  | none => rfl
  | plain notQuote notBackslash notControl _ ih =>
    simp only [List.cons_append, Document.skipText, notQuote, notBackslash, notControl, if_false, ih]
  | @escape b s letter _ ih =>
    have notU : b ≠ lowerU := by
      rintro rfl
      exact absurd letter (by decide)
    have escapes : (backslash : UInt8) ≠ quote := by decide
    simp only [List.cons_append, Document.skipText, escapes, if_false, if_true, notU, letter, ih]
  | @code digits s four hexadecimal _ ih =>
    obtain ⟨a, b, c, d, rfl⟩ := List.length_eq_four.mp four
    simp only [List.mem_cons, List.not_mem_nil, or_false, forall_eq_or_imp, forall_eq] at hexadecimal
    obtain ⟨first, second, third, fourth⟩ := hexadecimal
    have escapes : (backslash : UInt8) ≠ quote := by decide
    simp [Document.skipText, escapes, first, second, third, fourth, ih]

theorem IsQuoted.append_inj {s t u v : Bytes} (first : IsQuoted s) (second : IsQuoted t)
    (same : s ++ u = t ++ v) : s = t := by
  obtain ⟨inside, rfl, characters⟩ := first
  obtain ⟨other, rfl, otherCharacters⟩ := second
  have behind : inside ++ quote :: u = other ++ quote :: v := by simpa using same
  have skipped := characters.skipText u
  rw [behind, otherCharacters.skipText v] at skipped
  cases skipped
  rw [List.append_cancel_right behind]

/-! ## Numbers and words -/

/-- One digit at least. -/
def IsDigits (s : Bytes) : Prop := s ≠ [] ∧ ∀ b ∈ s, isDigit b = true

/-- A fraction, or none. -/
def IsFraction (s : Bytes) : Prop := s = [] ∨ ∃ digits, s = point :: digits ∧ IsDigits digits

/-- An exponent, or none. -/
def IsExponent (s : Bytes) : Prop :=
  s = [] ∨ ∃ letter sign digits, s = letter :: (sign ++ digits) ∧
    (letter = lowerE ∨ letter = upperE) ∧ (sign = [] ∨ sign = [plus] ∨ sign = [minus]) ∧
    IsDigits digits

/-- A written number. -/
def IsNumber (s : Bytes) : Prop :=
  ∃ sign whole fraction exponent, s = sign ++ (whole ++ (fraction ++ exponent)) ∧
    (sign = [] ∨ sign = [minus]) ∧ IsWhole whole ∧ IsFraction fraction ∧ IsExponent exponent

/-- The words that are values. -/
def words : List Bytes := ["null", "true", "false"].map Bytes.ofText

/-- A value that no closing byte ends. -/
def IsScalar (s : Bytes) : Prop := s ∈ words ∨ IsNumber s

/-- A byte behind which no value goes on. -/
def isDelimiter (b : UInt8) : Bool :=
  isBlank b || b == comma || b == colon || b == closeBracket || b == closeBrace

/-- A byte inside a number or a word: none that delimits a value, and none that opens another
one. -/
def isInner (b : UInt8) : Bool :=
  !isDelimiter b && b != quote && b != openBracket && b != openBrace

/-- A rest that does not go on with a value. -/
def EndsValue (rest : Bytes) : Prop := ∀ b, rest.head? = some b → isDelimiter b = true

theorem isInner_of_isDigit {b : UInt8} (digit : isDigit b = true) : isInner b = true := by
  rw [← Bool.not_eq_false]
  intro outer
  simp only [isInner, isDelimiter, isBlank, Bool.and_eq_false_iff, Bool.not_eq_false',
    Bool.or_eq_true, beq_iff_eq, bne_eq_false_iff_eq] at outer
  rcases outer with (((((((((rfl | rfl) | rfl) | rfl) | rfl) | rfl) | rfl) | rfl) | rfl) | rfl) | rfl
    <;> exact absurd digit (by decide)

theorem IsDigits.inner {s : Bytes} (digits : IsDigits s) : ∀ b ∈ s, isInner b = true :=
  fun b inside => isInner_of_isDigit (digits.2 b inside)

theorem IsNumber.inner {s : Bytes} (number : IsNumber s) : ∀ b ∈ s, isInner b = true := by
  obtain ⟨sign, whole, fraction, exponent, rfl, signs, isWhole, isFraction, isExponent⟩ := number
  have inSign : ∀ b ∈ sign, isInner b = true := by
    rcases signs with rfl | rfl
    · simp
    · exact List.forall_mem_singleton.mpr (by decide)
  have inWhole : ∀ b ∈ whole, isInner b = true :=
    fun b inside => isInner_of_isDigit (isWhole.areDigits b inside)
  have inFraction : ∀ b ∈ fraction, isInner b = true := by
    rcases isFraction with rfl | ⟨digits, rfl, areDigits⟩
    · simp
    · exact List.forall_mem_cons.mpr ⟨by decide, areDigits.inner⟩
  have inExponent : ∀ b ∈ exponent, isInner b = true := by
    rcases isExponent with rfl | ⟨letter, sign, digits, rfl, letters, signs, areDigits⟩
    · simp
    · refine List.forall_mem_cons.mpr ⟨?_, List.forall_mem_append.mpr ⟨?_, areDigits.inner⟩⟩
      · rcases letters with rfl | rfl <;> decide
      · rcases signs with rfl | rfl | rfl
        · simp
        · exact List.forall_mem_singleton.mpr (by decide)
        · exact List.forall_mem_singleton.mpr (by decide)
  exact List.forall_mem_append.mpr ⟨inSign, List.forall_mem_append.mpr
    ⟨inWhole, List.forall_mem_append.mpr ⟨inFraction, inExponent⟩⟩⟩

theorem IsNumber.ne_nil {s : Bytes} (number : IsNumber s) : s ≠ [] := by
  obtain ⟨sign, whole, fraction, exponent, rfl, -, isWhole, -, -⟩ := number
  rcases isWhole with rfl | ⟨b, more, rfl, -, -⟩ <;> simp

theorem inner_words : ∀ t ∈ words, t ≠ [] ∧ ∀ b ∈ t, isInner b = true := by
  have checked : (words.all fun t => !t.isEmpty && t.all isInner) = true := by decide
  simpa using checked

namespace IsScalar

variable {s t u v : Bytes}

theorem inner (scalar : IsScalar s) : ∀ b ∈ s, isInner b = true :=
  scalar.elim (fun word => (inner_words s word).2) IsNumber.inner

theorem ne_nil (scalar : IsScalar s) : s ≠ [] :=
  scalar.elim (fun word => (inner_words s word).1) IsNumber.ne_nil

/-- A scalar does not start like any other value. -/
theorem head_inner (scalar : IsScalar s) {b : UInt8} (same : s ++ u = b :: v) : isInner b = true := by
  obtain ⟨c, more, rfl⟩ := List.exists_cons_of_ne_nil scalar.ne_nil
  obtain rfl : c = b := (List.cons.inj same).1
  exact scalar.inner c List.mem_cons_self

theorem takeWhile (scalar : IsScalar s) (ends : EndsValue u) : (s ++ u).takeWhile isInner = s := by
  rw [List.takeWhile_append_of_pos scalar.inner]
  cases u with
  | nil => simp
  | cons b u =>
    have outer : isInner b = false := by simp [isInner, ends b rfl]
    simp [outer]

theorem append_inj (scalar : IsScalar s) (other : IsScalar t) (same : s ++ u = t ++ v)
    (ends : EndsValue u) (endsOther : EndsValue v) : s = t := by
  rw [← scalar.takeWhile ends, same, other.takeWhile endsOther]

end IsScalar

/-! ## Values -/

/-- What a phrase is: a value, the items of a list or the members of an object, from the first one
on or behind one of them.  Items are given by their values, and members by their names and values,
all as they are written. -/
inductive Phrase where
  | value
  | items (first : Bool) (texts : List Bytes)
  | members (first : Bool) (parts : List (Bytes × Bytes))

/-- The bytes are such a phrase. -/
inductive IsPhrase : Phrase → Bytes → Prop where
  | scalar {t : Bytes} (scalar : IsScalar t) : IsPhrase .value t
  | text {t : Bytes} (quoted : IsQuoted t) : IsPhrase .value t
  | list {texts : List Bytes} {inner : Bytes} (items : IsPhrase (.items true texts) inner) :
    IsPhrase .value (openBracket :: (inner ++ [closeBracket]))
  | object {parts : List (Bytes × Bytes)} {inner : Bytes}
    (members : IsPhrase (.members true parts) inner) :
    IsPhrase .value (openBrace :: (inner ++ [closeBrace]))
  | noItem {first : Bool} {blanks : Bytes} (blank : IsBlank blanks) :
    IsPhrase (.items first []) blanks
  | firstItem {blanks t : Bytes} {texts : List Bytes} {more : Bytes} (blank : IsBlank blanks)
    (value : IsPhrase .value t) (others : IsPhrase (.items false texts) more) :
    IsPhrase (.items true (t :: texts)) (blanks ++ (t ++ more))
  | nextItem {blanks t : Bytes} {texts : List Bytes} {s : Bytes} (blank : IsBlank blanks)
    (items : IsPhrase (.items true (t :: texts)) s) :
    IsPhrase (.items false (t :: texts)) (blanks ++ comma :: s)
  | noMember {first : Bool} {blanks : Bytes} (blank : IsBlank blanks) :
    IsPhrase (.members first []) blanks
  | firstMember {blanks name gap lead t : Bytes} {parts : List (Bytes × Bytes)} {more : Bytes}
    (blank : IsBlank blanks) (quoted : IsQuoted name) (gapBlank : IsBlank gap)
    (leadBlank : IsBlank lead) (value : IsPhrase .value t)
    (others : IsPhrase (.members false parts) more) :
    IsPhrase (.members true ((name, t) :: parts))
      (blanks ++ (name ++ (gap ++ colon :: (lead ++ (t ++ more)))))
  | nextMember {blanks : Bytes} {part : Bytes × Bytes} {parts : List (Bytes × Bytes)} {s : Bytes}
    (blank : IsBlank blanks) (members : IsPhrase (.members true (part :: parts)) s) :
    IsPhrase (.members false (part :: parts)) (blanks ++ comma :: s)

/-- The bytes are a list of these items, as they are written. -/
def IsListText (texts : List Bytes) (t : Bytes) : Prop :=
  ∃ inner, t = openBracket :: (inner ++ [closeBracket]) ∧ IsPhrase (.items true texts) inner

theorem IsListText.isPhrase {texts : List Bytes} {t : Bytes} (list : IsListText texts t) :
    IsPhrase .value t := by
  obtain ⟨inner, rfl, items⟩ := list
  exact .list items

/-- The bytes are an object with these members, each its name and its value as they are written. -/
def IsObjectText (parts : List (Bytes × Bytes)) (t : Bytes) : Prop :=
  ∃ inner, t = openBrace :: (inner ++ [closeBrace]) ∧ IsPhrase (.members true parts) inner

theorem IsObjectText.isPhrase {parts : List (Bytes × Bytes)} {t : Bytes}
    (object : IsObjectText parts t) : IsPhrase .value t := by
  obtain ⟨inner, rfl, members⟩ := object
  exact .object members

/-- A value that starts with a brace is an object. -/
theorem IsPhrase.exists_parts {s : Bytes} (value : IsPhrase .value (openBrace :: s)) :
    ∃ parts, IsObjectText parts (openBrace :: s) := by
  generalize whole : openBrace :: s = t at value
  cases value with
  | scalar scalar => exact absurd (scalar.head_inner (u := []) (by rw [← whole]; rfl)) (by decide)
  | text quoted =>
    obtain ⟨characters, rfl, -⟩ := quoted
    cases whole
  | list items => cases whole
  | object members => exact ⟨_, _, rfl, members⟩

/-! ## Blanks between the parts -/

/-- Bytes that start with no blank. -/
def IsSolid (s : Bytes) : Prop := ∃ b t, s = b :: t ∧ isBlank b = false

theorem isSolid_cons {b : UInt8} (notBlank : isBlank b = false) (s : Bytes) : IsSolid (b :: s) :=
  ⟨b, s, rfl, notBlank⟩

theorem IsSolid.append {s : Bytes} (solid : IsSolid s) (t : Bytes) : IsSolid (s ++ t) := by
  obtain ⟨b, s, rfl, notBlank⟩ := solid
  exact ⟨b, s ++ t, rfl, notBlank⟩

theorem IsBlank.skipBlank_solid {blanks s : Bytes} (blank : IsBlank blanks) (solid : IsSolid s) :
    Document.skipBlank (blanks ++ s) = s := by
  obtain ⟨b, t, rfl, notBlank⟩ := solid
  exact blank.skipBlank notBlank t

/-- Blanks end where something else starts. -/
theorem IsBlank.append_inj {a b s t : Bytes} (blank : IsBlank a) (other : IsBlank b)
    (solid : IsSolid s) (otherSolid : IsSolid t) (same : a ++ s = b ++ t) : a = b ∧ s = t := by
  have rests := congrArg Document.skipBlank same
  rw [blank.skipBlank_solid solid, other.skipBlank_solid otherSolid] at rests
  subst rests
  exact ⟨List.append_cancel_right same, rfl⟩

theorem IsQuoted.isSolid {t : Bytes} (quoted : IsQuoted t) : IsSolid t := by
  obtain ⟨characters, rfl, -⟩ := quoted
  exact isSolid_cons rfl _

/-- A value starts with no delimiter. -/
theorem IsPhrase.exists_cons {t : Bytes} (value : IsPhrase .value t) :
    ∃ b s, t = b :: s ∧ isDelimiter b = false := by
  cases value with
  | scalar scalar =>
    obtain ⟨b, s, rfl⟩ := List.exists_cons_of_ne_nil scalar.ne_nil
    have inner := scalar.inner b List.mem_cons_self
    simp only [isInner, Bool.and_eq_true, Bool.not_eq_true'] at inner
    exact ⟨b, s, rfl, inner.1.1.1⟩
  | text quoted =>
    obtain ⟨characters, rfl, -⟩ := quoted
    exact ⟨quote, _, rfl, rfl⟩
  | list items => exact ⟨openBracket, _, rfl, rfl⟩
  | object members => exact ⟨openBrace, _, rfl, rfl⟩

theorem IsPhrase.isDelimiter_head {t u v : Bytes} (value : IsPhrase .value t) {b : UInt8}
    (same : t ++ u = b :: v) : isDelimiter b = false := by
  obtain ⟨c, s, rfl, notDelimiter⟩ := value.exists_cons
  rwa [(List.cons.inj same).1] at notDelimiter

theorem IsPhrase.isSolid {t : Bytes} (value : IsPhrase .value t) : IsSolid t := by
  obtain ⟨b, s, rfl, notDelimiter⟩ := value.exists_cons
  simp only [isDelimiter, Bool.or_eq_false_iff] at notDelimiter
  exact isSolid_cons notDelimiter.1.1.1.1 s

theorem endsValue_cons {b : UInt8} (delimiter : isDelimiter b = true) (s : Bytes) :
    EndsValue (b :: s) := by
  rintro c ⟨⟩
  exact delimiter

theorem IsBlank.endsValue_append {blanks rest : Bytes} (blank : IsBlank blanks)
    (ends : EndsValue rest) : EndsValue (blanks ++ rest) := by
  cases blanks with
  | nil => exact ends
  | cons b blanks =>
    have isBlankByte : isBlank b = true := blank b List.mem_cons_self
    exact endsValue_cons (by simp [isDelimiter, isBlankByte]) _

/-- Behind an item or a member comes a delimiter. -/
theorem IsPhrase.endsValue {phrase : Phrase} {s : Bytes} (isPhrase : IsPhrase phrase s)
    (behind : (∃ texts, phrase = .items false texts) ∨ ∃ parts, phrase = .members false parts)
    {rest : Bytes} (ends : EndsValue rest) : EndsValue (s ++ rest) := by
  cases isPhrase with
  | noItem blank => exact blank.endsValue_append ends
  | nextItem blank _ =>
    rw [List.append_assoc]
    exact blank.endsValue_append (endsValue_cons rfl _)
  | noMember blank => exact blank.endsValue_append ends
  | nextMember blank _ =>
    rw [List.append_assoc]
    exact blank.endsValue_append (endsValue_cons rfl _)
  | _ => simp at behind

/-! ## The grammar is unambiguous -/

/-- The phrase ends at one place only, and its parts are the same however it is taken apart. -/
def Phrase.EndsOnce (s : Bytes) : Phrase → Prop
  | .value => ∀ t u v, IsPhrase .value t → s ++ u = t ++ v → EndsValue u → EndsValue v → s = t
  | .items first texts => ∀ others t u v, IsPhrase (.items first others) t →
    s ++ closeBracket :: u = t ++ closeBracket :: v → s = t ∧ texts = others
  | .members first parts => ∀ others t u v, IsPhrase (.members first others) t →
    s ++ closeBrace :: u = t ++ closeBrace :: v → s = t ∧ parts = others

section

variable {s t u v a b : Bytes} {c d : UInt8}

/-- Blanks end where a byte stands that is none. -/
theorem IsBlank.cons_inj (blank : IsBlank a) (other : IsBlank b) (notBlank : isBlank c = false)
    (otherNotBlank : isBlank d = false) (same : a ++ c :: s = b ++ d :: t) :
    a = b ∧ c = d ∧ s = t := by
  obtain ⟨rfl, rest⟩ :=
    blank.append_inj other (isSolid_cons notBlank s) (isSolid_cons otherNotBlank t) same
  exact ⟨rfl, List.cons.inj rest⟩

/-- A value does not start where a delimiter stands. -/
theorem IsPhrase.not_delimiter (value : IsPhrase .value t) (blank : IsBlank a) (other : IsBlank b)
    (delimiter : isDelimiter c = true) (notBlank : isBlank c = false) :
    a ++ (t ++ u) ≠ b ++ c :: s := by
  intro same
  obtain ⟨-, rest⟩ :=
    blank.append_inj other (value.isSolid.append u) (isSolid_cons notBlank s) same
  rw [value.isDelimiter_head rest] at delimiter
  cases delimiter

end

namespace Phrase.EndsOnce

variable {s blanks : Bytes}

/-! ### Values -/

theorem scalar (scalar : IsScalar s) : value.EndsOnce s := by
  intro t u v other same ends endsOther
  cases other with
  | scalar other => exact scalar.append_inj other same ends endsOther
  | text quoted =>
    obtain ⟨characters, rfl, -⟩ := quoted
    exact absurd (scalar.head_inner same) (by decide)
  | list => exact absurd (scalar.head_inner same) (by decide)
  | object => exact absurd (scalar.head_inner same) (by decide)

theorem text (quoted : IsQuoted s) : value.EndsOnce s := by
  intro t u v other same _ _
  cases other with
  | text other => exact quoted.append_inj other same
  | scalar scalar =>
    obtain ⟨characters, rfl, -⟩ := quoted
    exact absurd (scalar.head_inner same.symm) (by decide)
  | list =>
    obtain ⟨characters, rfl, -⟩ := quoted
    cases same
  | object =>
    obtain ⟨characters, rfl, -⟩ := quoted
    cases same

theorem list {texts : List Bytes} {inner : Bytes} (inside : (items true texts).EndsOnce inner) :
    value.EndsOnce (openBracket :: (inner ++ [closeBracket])) := by
  intro t u v other same _ _
  cases other with
  | @list others otherInner otherItems =>
    have behind : inner ++ closeBracket :: u = otherInner ++ closeBracket :: v := by
      simpa using same
    rw [(inside _ _ _ _ otherItems behind).1]
  | scalar scalar => exact absurd (scalar.head_inner same.symm) (by decide)
  | text quoted =>
    obtain ⟨characters, rfl, -⟩ := quoted
    cases same
  | object => cases same

theorem object {parts : List (Bytes × Bytes)} {inner : Bytes}
    (inside : (members true parts).EndsOnce inner) :
    value.EndsOnce (openBrace :: (inner ++ [closeBrace])) := by
  intro t u v other same _ _
  cases other with
  | @object others otherInner otherMembers =>
    have behind : inner ++ closeBrace :: u = otherInner ++ closeBrace :: v := by
      simpa using same
    rw [(inside _ _ _ _ otherMembers behind).1]
  | scalar scalar => exact absurd (scalar.head_inner same.symm) (by decide)
  | text quoted =>
    obtain ⟨characters, rfl, -⟩ := quoted
    cases same
  | list => cases same

/-! ### Items -/

theorem noItem (blank : IsBlank blanks) {first : Bool} : (items first []).EndsOnce blanks := by
  intro others t u v other same
  cases other with
  | noItem otherBlank => exact ⟨(blank.cons_inj otherBlank rfl rfl same).1, rfl⟩
  | firstItem otherBlank value _ =>
    simp only [List.append_assoc] at same
    exact absurd same.symm (value.not_delimiter otherBlank blank rfl rfl)
  | nextItem otherBlank _ =>
    simp only [List.append_assoc] at same
    exact absurd (blank.cons_inj otherBlank rfl rfl same).2.1 (by decide)

theorem firstItem {item : Bytes} {texts : List Bytes} {more : Bytes} (blank : IsBlank blanks)
    (value : IsPhrase .value item) (others : IsPhrase (.items false texts) more)
    (valueOnce : Phrase.value.EndsOnce item) (othersOnce : (items false texts).EndsOnce more) :
    (items true (item :: texts)).EndsOnce (blanks ++ (item ++ more)) := by
  intro otherTexts t u v other same
  simp only [List.append_assoc] at same
  cases other with
  | noItem otherBlank => exact absurd same (value.not_delimiter blank otherBlank rfl rfl)
  | firstItem otherBlank otherValue otherOthers =>
    simp only [List.append_assoc] at same
    obtain ⟨rfl, values⟩ :=
      blank.append_inj otherBlank (value.isSolid.append _) (otherValue.isSolid.append _) same
    obtain rfl := valueOnce _ _ _ otherValue values
      (others.endsValue (.inl ⟨_, rfl⟩) (endsValue_cons rfl u))
      (otherOthers.endsValue (.inl ⟨_, rfl⟩) (endsValue_cons rfl v))
    obtain ⟨rfl, rfl⟩ := othersOnce _ _ _ _ otherOthers (List.append_cancel_left values)
    exact ⟨rfl, rfl⟩

theorem nextItem {item : Bytes} {texts : List Bytes} (blank : IsBlank blanks)
    (itemsOnce : (items true (item :: texts)).EndsOnce s) :
    (items false (item :: texts)).EndsOnce (blanks ++ comma :: s) := by
  intro otherTexts t u v other same
  simp only [List.append_assoc] at same
  cases other with
  | noItem otherBlank => exact absurd (blank.cons_inj otherBlank rfl rfl same).2.1 (by decide)
  | nextItem otherBlank otherItems =>
    simp only [List.append_assoc] at same
    obtain ⟨rfl, -, behind⟩ := blank.cons_inj otherBlank rfl rfl same
    obtain ⟨rfl, texts⟩ := itemsOnce _ _ _ _ otherItems behind
    exact ⟨rfl, texts⟩

/-! ### Members -/

theorem noMember (blank : IsBlank blanks) {first : Bool} : (members first []).EndsOnce blanks := by
  intro others t u v other same
  cases other with
  | noMember otherBlank => exact ⟨(blank.cons_inj otherBlank rfl rfl same).1, rfl⟩
  | firstMember otherBlank quoted _ _ _ _ =>
    simp only [List.append_assoc] at same
    exact absurd same.symm ((IsPhrase.text quoted).not_delimiter otherBlank blank rfl rfl)
  | nextMember otherBlank _ =>
    simp only [List.append_assoc] at same
    exact absurd (blank.cons_inj otherBlank rfl rfl same).2.1 (by decide)

theorem firstMember {name gap lead item : Bytes} {parts : List (Bytes × Bytes)} {more : Bytes}
    (blank : IsBlank blanks) (quoted : IsQuoted name) (gapBlank : IsBlank gap)
    (leadBlank : IsBlank lead) (value : IsPhrase .value item)
    (others : IsPhrase (.members false parts) more) (valueOnce : Phrase.value.EndsOnce item)
    (othersOnce : (members false parts).EndsOnce more) :
    (members true ((name, item) :: parts)).EndsOnce
      (blanks ++ (name ++ (gap ++ colon :: (lead ++ (item ++ more))))) := by
  intro otherParts t u v other same
  simp only [List.append_assoc, List.cons_append] at same
  cases other with
  | noMember otherBlank =>
    exact absurd same ((IsPhrase.text quoted).not_delimiter blank otherBlank rfl rfl)
  | firstMember otherBlank otherQuoted otherGap otherLead otherValue otherOthers =>
    -- From the left, piece by piece: each ends at one place only, so both go on alike.
    simp only [List.append_assoc, List.cons_append] at same
    obtain ⟨rfl, named⟩ :=
      blank.append_inj otherBlank (quoted.isSolid.append _) (otherQuoted.isSolid.append _) same
    obtain rfl := quoted.append_inj otherQuoted named
    obtain ⟨rfl, -, behindColon⟩ :=
      gapBlank.cons_inj otherGap rfl rfl (List.append_cancel_left named)
    obtain ⟨rfl, values⟩ :=
      leadBlank.append_inj otherLead (value.isSolid.append _) (otherValue.isSolid.append _)
        behindColon
    obtain rfl := valueOnce _ _ _ otherValue values
      (others.endsValue (.inr ⟨_, rfl⟩) (endsValue_cons rfl u))
      (otherOthers.endsValue (.inr ⟨_, rfl⟩) (endsValue_cons rfl v))
    obtain ⟨rfl, rfl⟩ := othersOnce _ _ _ _ otherOthers (List.append_cancel_left values)
    exact ⟨rfl, rfl⟩

theorem nextMember {part : Bytes × Bytes} {parts : List (Bytes × Bytes)} (blank : IsBlank blanks)
    (membersOnce : (members true (part :: parts)).EndsOnce s) :
    (members false (part :: parts)).EndsOnce (blanks ++ comma :: s) := by
  intro otherParts t u v other same
  simp only [List.append_assoc] at same
  cases other with
  | noMember otherBlank => exact absurd (blank.cons_inj otherBlank rfl rfl same).2.1 (by decide)
  | nextMember otherBlank otherMembers =>
    simp only [List.append_assoc] at same
    obtain ⟨rfl, -, behind⟩ := blank.cons_inj otherBlank rfl rfl same
    obtain ⟨rfl, parts⟩ := membersOnce _ _ _ _ otherMembers behind
    exact ⟨rfl, parts⟩

end Phrase.EndsOnce

theorem IsPhrase.endsOnce {phrase : Phrase} {s : Bytes} (isPhrase : IsPhrase phrase s) :
    phrase.EndsOnce s := by
  induction isPhrase with
  | scalar scalar => exact .scalar scalar
  | text quoted => exact .text quoted
  | list _ ih => exact .list ih
  | object _ ih => exact .object ih
  | noItem blank => exact .noItem blank
  | firstItem blank value others ihValue ihOthers =>
    exact .firstItem blank value others ihValue ihOthers
  | nextItem blank _ ih => exact .nextItem blank ih
  | noMember blank => exact .noMember blank
  | firstMember blank quoted gapBlank leadBlank value others ihValue ihOthers =>
    exact .firstMember blank quoted gapBlank leadBlank value others ihValue ihOthers
  | nextMember blank _ ih => exact .nextMember blank ih

/-- An object is no proper part of another one that starts at the same place, and it has the same
members in every way of taking it apart. -/
theorem IsObjectText.append_inj {parts others : List (Bytes × Bytes)} {s t u v : Bytes}
    (object : IsObjectText parts s) (other : IsObjectText others t) (same : s ++ u = t ++ v) :
    s = t ∧ parts = others ∧ u = v := by
  obtain ⟨inner, rfl, members⟩ := object
  obtain ⟨otherInner, rfl, otherMembers⟩ := other
  have behind : inner ++ closeBrace :: u = otherInner ++ closeBrace :: v := by simpa using same
  obtain ⟨rfl, rfl⟩ := members.endsOnce _ _ _ _ otherMembers behind
  exact ⟨rfl, rfl, List.append_cancel_left same⟩

end FrameCourier.Document
