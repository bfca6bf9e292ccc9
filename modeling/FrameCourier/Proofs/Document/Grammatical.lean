import FrameCourier.Proofs.Document.Grammar

/-!
# What is read is grammatical

Whatever bytes are read as a document are one by the grammar, with blanks around it.  Of an object
every name and every value is read from what is written for it alone.
-/

namespace FrameCourier.Document

open Ascii

/-! ## Texts -/

/-- The bytes go on with the characters of a text of which some are passed. -/
def TextState.GoesOn (s : Bytes) : TextState → Prop
  | .plain => IsCharacters s
  | .escaped => IsCharacters (backslash :: s)
  | .hex _ count value => value.isSome = true ∧ ∃ digits more, s = digits ++ more ∧
    digits.length = 3 - count + 1 ∧ (∀ b ∈ digits, (hexValue? b).isSome = true) ∧ IsCharacters more
  | .pairEscape _ => IsCharacters s
  | .pairMark _ => IsCharacters (backslash :: s)

theorem TextState.GoesOn.hex_cons {lead : Option Nat} {count : Nat} {value : Option Nat} {b : UInt8}
    {s : Bytes} (more : count < 3)
    (after : GoesOn s (.hex lead (count + 1)
      (value.bind fun v => (hexValue? b).map fun d => 16 * v + d))) :
    GoesOn (b :: s) (.hex lead count value) := by
  obtain ⟨known, digits, rest, rfl, length, hexadecimal, characters⟩ := after
  obtain ⟨v, rfl⟩ : ∃ v, value = some v := by
    cases value with
    | none => cases known
    | some v => exact ⟨v, rfl⟩
  have digit : (hexValue? b).isSome = true := by simpa using known
  refine ⟨rfl, b :: digits, rest, rfl, ?_, List.forall_mem_cons.mpr ⟨digit, hexadecimal⟩, characters⟩
  rw [List.length_cons, length]
  omega

/-- The last hexadecimal digit of an escape. -/
theorem TextState.GoesOn.hex_last {lead : Option Nat} {count : Nat} {value : Option Nat} {b : UInt8}
    {s : Bytes} {v : Nat} (full : ¬ count < 3)
    (known : (value.bind fun v => (hexValue? b).map fun d => 16 * v + d) = some v)
    (characters : IsCharacters s) : GoesOn (b :: s) (.hex lead count value) := by
  obtain ⟨w, rfl, found⟩ := Option.bind_eq_some_iff.mp known
  obtain ⟨d, digit, -⟩ := Option.map_eq_some_iff.mp found
  refine ⟨rfl, [b], s, rfl, ?_, ?_, characters⟩
  · rw [List.length_singleton]
    omega
  · simp [digit]

theorem textBytes_goesOn {state : TextState} {done s found rest : Bytes}
    (success : textBytes state done s = .ok (found, rest)) :
    ∃ taken, s = taken ++ quote :: rest ∧ state.GoesOn taken := by
  fun_induction textBytes state done s with
  | case2 done s =>
    -- The closing quote.
    cases success
    exact ⟨[], rfl, .none⟩
  | case3 done s notQuote ih =>
    obtain ⟨taken, rfl, characters⟩ := ih success
    exact ⟨backslash :: taken, rfl, characters⟩
  | case5 done b s notQuote notBackslash notControl ih =>
    obtain ⟨taken, rfl, characters⟩ := ih success
    exact ⟨b :: taken, rfl, .plain notQuote notBackslash notControl characters⟩
  | case6 done s ih =>
    obtain ⟨taken, rfl, -, digits, more, rfl, length, hexadecimal, characters⟩ := ih success
    exact ⟨lowerU :: (digits ++ more), rfl, .code length hexadecimal characters⟩
  | case7 done b s notMark c simple ih =>
    obtain ⟨taken, rfl, characters⟩ := ih success
    exact ⟨b :: taken, rfl, .escape (by simp [simple]) characters⟩
  | case9 lead count value done b s value' more ih =>
    obtain ⟨taken, rfl, goesOn⟩ := ih success
    exact ⟨b :: taken, rfl, goesOn.hex_cons more⟩
  | case12 count value done b s value' full v known notTrailing leading ih =>
    obtain ⟨taken, rfl, characters⟩ := ih success
    exact ⟨b :: taken, rfl, .hex_last full known characters⟩
  | case13 count value done b s value' full v known notTrailing notLeading ih =>
    obtain ⟨taken, rfl, characters⟩ := ih success
    exact ⟨b :: taken, rfl, .hex_last full known characters⟩
  | case14 count value done b s value' full v lead known trailing ih =>
    obtain ⟨taken, rfl, characters⟩ := ih success
    exact ⟨b :: taken, rfl, .hex_last full known characters⟩
  | case16 lead done s ih =>
    obtain ⟨taken, rfl, characters⟩ := ih success
    exact ⟨backslash :: taken, rfl, characters⟩
  | case18 lead done s ih =>
    obtain ⟨taken, rfl, -, digits, more, rfl, length, hexadecimal, characters⟩ := ih success
    exact ⟨lowerU :: (digits ++ more), rfl, .code length hexadecimal characters⟩
  | _ => cases success

/-- A text that is read is one, and is read from its own bytes alone. -/
theorem textBody_grammatical {s rest : Bytes} {decoded : String}
    (success : textBody s = .ok (decoded, rest)) :
    ∃ taken, s = taken ++ rest ∧ IsQuoted (quote :: taken) ∧ textBody taken = .ok (decoded, []) := by
  obtain ⟨taken, rfl, -, reads⟩ := textBody_local success
  refine ⟨taken, rfl, ?_, by simpa using reads [] trivial⟩
  unfold textBody at success
  split at success
  · cases success
  · next found left scanned =>
    obtain ⟨characters, parts, isCharacters⟩ := textBytes_goesOn scanned
    split at success
    · cases success
      have same : taken ++ rest = characters ++ [quote] ++ rest := by simpa using parts
      rw [List.append_cancel_right same]
      exact ⟨characters, rfl, isCharacters⟩
    · cases success

/-! ## Numbers -/

theorem wholeDigits_grammatical {s whole rest : Bytes}
    (success : wholeDigits s = .ok (whole, rest)) : s = whole ++ rest ∧ IsWhole whole := by
  cases s with
  | nil => cases success
  | cons b s =>
    simp only [wholeDigits] at success
    split at success
    · next isZero =>
      split at success
      · cases success
      · cases success
        exact ⟨rfl, .inl (by rw [isZero])⟩
    · next notZero =>
      split at success
      · next digit =>
        cases success
        refine ⟨by simp [List.takeWhile_append_dropWhile], .inr ⟨b, _, rfl, notZero, ?_⟩⟩
        exact List.forall_mem_cons.mpr ⟨digit, isDigit_of_mem_takeWhile⟩
      · cases success

theorem fractionDigits_grammatical {s fraction rest : Bytes}
    (success : fractionDigits s = .ok (fraction, rest)) :
    s = fraction ++ rest ∧ IsDigits fraction := by
  unfold fractionDigits at success
  split at success
  · split at success <;> cases success
  · next digits some =>
    cases success
    exact ⟨List.takeWhile_append_dropWhile.symm, some, isDigit_of_mem_takeWhile⟩

theorem exponentSign_cases {s t : Bytes} {down : Bool} (signed : exponentSign s = (down, t)) :
    ∃ sign, s = sign ++ t ∧ (sign = [] ∨ sign = [plus] ∨ sign = [minus]) := by
  unfold exponentSign at signed
  split at signed <;> cases signed
  · exact ⟨[plus], rfl, .inr (.inl rfl)⟩
  · exact ⟨[minus], rfl, .inr (.inr rfl)⟩
  · exact ⟨[], rfl, .inl rfl⟩

/-- What is read behind the letter of an exponent. -/
theorem exponentPart_grammatical {l : Literal} {s rest : Bytes} {n : Numeral}
    (success : exponentPart l s = .ok (n, rest)) {letter : UInt8}
    (letters : letter = lowerE ∨ letter = upperE) :
    ∃ exponent, letter :: s = exponent ++ rest ∧ IsExponent exponent := by
  rcases signed : exponentSign s with ⟨down, t⟩
  obtain ⟨sign, rfl, signs⟩ := exponentSign_cases signed
  simp only [exponentPart, signed] at success
  cases t with
  | nil => cases success
  | cons b after =>
    simp only at success
    split at success
    · cases success
    · next isDigitNext =>
      have digit : isDigit b = true := by simpa using isDigitNext
      rcases scanned : exponentDigits 0 (b :: after) with ⟨found, left⟩
      rw [scanned] at success
      obtain ⟨taken, parts, areDigits, ends, -⟩ := exponentDigits_local scanned
      obtain ⟨restEnds, digits, rfl, moreDigits, -, -⟩ := withExponent_local success ends
      have whole : b :: after = (taken ++ digits) ++ rest := by rw [parts, List.append_assoc]
      have some : taken ++ digits ≠ [] := by
        intro none
        rw [none, List.nil_append] at whole
        rw [restEnds b (by rw [← whole]; rfl)] at digit
        cases digit
      refine ⟨letter :: (sign ++ (taken ++ digits)), by rw [whole]; simp, .inr ?_⟩
      exact ⟨letter, sign, taken ++ digits, rfl, letters, signs, some,
        List.forall_mem_append.mpr ⟨areDigits, moreDigits⟩⟩

theorem afterFraction_grammatical {negative : Bool} {whole fraction s rest : Bytes} {n : Numeral}
    (success : afterFraction negative whole fraction s = .ok (n, rest)) :
    ∃ exponent, s = exponent ++ rest ∧ IsExponent exponent := by
  unfold afterFraction at success
  split at success
  · exact exponentPart_grammatical success (.inl rfl)
  · exact exponentPart_grammatical success (.inr rfl)
  · obtain ⟨rfl, -⟩ := realNumber_local success
    exact ⟨[], rfl, .inl rfl⟩

theorem afterWhole_grammatical {negative : Bool} {whole s rest : Bytes} {n : Numeral}
    (success : afterWhole negative whole s = .ok (n, rest)) :
    ∃ fraction exponent, s = fraction ++ (exponent ++ rest) ∧ IsFraction fraction ∧
      IsExponent exponent := by
  unfold afterWhole at success
  split at success
  · split at success
    · cases success
    · next fraction left scanned =>
      obtain ⟨rfl, digits⟩ := fractionDigits_grammatical scanned
      obtain ⟨exponent, rfl, isExponent⟩ := afterFraction_grammatical success
      exact ⟨point :: fraction, exponent, by simp, .inr ⟨fraction, rfl, digits⟩, isExponent⟩
  · obtain ⟨exponent, parts, isExponent⟩ := exponentPart_grammatical success (.inl rfl)
    exact ⟨[], exponent, parts, .inl rfl, isExponent⟩
  · obtain ⟨exponent, parts, isExponent⟩ := exponentPart_grammatical success (.inr rfl)
    exact ⟨[], exponent, parts, .inl rfl, isExponent⟩
  · split at success
    · cases success
      exact ⟨[], [], rfl, .inl rfl, .inl rfl⟩
    · cases success

theorem numeral_grammatical {s rest : Bytes} {n : Numeral} (success : numeral s = .ok (n, rest)) :
    ∃ taken, s = taken ++ rest ∧ IsNumber taken := by
  have unsigned : ∀ {negative : Bool} {t : Bytes}, unsignedNumeral negative t = .ok (n, rest) →
      ∀ sign, sign = [] ∨ sign = [minus] → ∃ taken, sign ++ t = taken ++ rest ∧ IsNumber taken := by
    intro negative t read sign signs
    unfold unsignedNumeral at read
    split at read
    · cases read
    · next whole left scanned =>
      obtain ⟨rfl, isWhole⟩ := wholeDigits_grammatical scanned
      obtain ⟨fraction, exponent, rfl, isFraction, isExponent⟩ := afterWhole_grammatical read
      exact ⟨sign ++ (whole ++ (fraction ++ exponent)), by simp,
        sign, whole, fraction, exponent, rfl, signs, isWhole, isFraction, isExponent⟩
  unfold numeral at success
  split at success
  · exact unsigned success [minus] (.inr rfl)
  · exact unsigned success [] (.inl rfl)

/-! ## Lists and objects -/

/-- A scan that takes a value from behind blanks, and the same value from its own bytes alone. -/
def TakesValues (scan : Bytes → Scan Document) : Prop :=
  ∀ s document rest, scan s = .ok (document, rest) →
    ∃ blanks t, s = blanks ++ (t ++ rest) ∧ IsBlank blanks ∧ IsPhrase .value t ∧
      scan t = .ok (document, [])

/-- The blanks that are passed over. -/
theorem exists_blanks_of_skipBlank {s t : Bytes} {b : UInt8} (found : skipBlank s = b :: t) :
    ∃ blanks, s = blanks ++ b :: t ∧ IsBlank blanks := by
  refine ⟨s.takeWhile isBlank, ?_, fun c inside => List.mem_takeWhile_imp inside⟩
  rw [← found]
  exact List.takeWhile_append_dropWhile.symm

theorem IsBlank.append {a b : Bytes} (first : IsBlank a) (second : IsBlank b) : IsBlank (a ++ b) :=
  List.forall_mem_append.mpr ⟨first, second⟩

theorem itemsFrom_grammatical {item : Bytes → Scan Document} (takes : TakesValues item) {fuel : Nat}
    {first : Bool} {done xs : List Document} {s rest : Bytes}
    (success : itemsFrom item fuel first done s = .ok (xs, rest)) :
    ∃ inner texts, s = inner ++ rest ∧ IsPhrase (.items first texts) inner ∧
      (∀ t ∈ texts, IsPhrase .value t ∧ ∃ x, item t = .ok (x, [])) ∧
      ∃ u, rest = closeBracket :: u := by
  induction fuel generalizing first done s with
  | zero => cases success
  | succ fuel ih =>
    simp only [itemsFrom] at success
    split at success
    · cases success
    · next left next =>
      cases success
      obtain ⟨-, u, found, rfl⟩ | ⟨more, -⟩ | ⟨more, -⟩ := nextItem_cases next
      · obtain ⟨blanks, rfl, blank⟩ := exists_blanks_of_skipBlank found
        exact ⟨blanks, [], rfl, .noItem blank, by simp, u, rfl⟩
      · cases more
      · cases more
    · next left next =>
      split at success
      · cases success
      · next x after read =>
        obtain ⟨lead, t, rfl, leadBlank, value, alone⟩ := takes _ _ _ read
        obtain ⟨inner, texts, rfl, others, each, ends⟩ := ih success
        have eachItem := List.forall_mem_cons.mpr ⟨⟨value, x, alone⟩, each⟩
        obtain ⟨more, -⟩ | ⟨-, rfl, b, v, found, -, same⟩ | ⟨-, rfl, v, b, w, found, after, -, same⟩ :=
          nextItem_cases next
        · cases more
        · rw [← same] at found
          obtain ⟨blanks, rfl, blank⟩ := exists_blanks_of_skipBlank (found.trans same)
          rw [← same]
          exact ⟨_, _, by simp, .firstItem (blank.append leadBlank) value others, eachItem, ends⟩
        · obtain ⟨blanks, rfl, blank⟩ := exists_blanks_of_skipBlank found
          obtain ⟨behind, rfl, behindBlank⟩ := exists_blanks_of_skipBlank after
          rw [← same]
          exact ⟨_, _, by simp, .nextItem blank
            (.firstItem (behindBlank.append leadBlank) value others), eachItem, ends⟩

/-- The name and the value of a member are read from what is written for them. -/
structure ReadsPart (value : Bytes → Scan Document) (part : Bytes × Bytes)
    (member : String × Document) : Prop where
  named : ∃ s, part.1 = quote :: s ∧ textBody s = .ok (member.1, [])
  isValue : IsPhrase .value part.2
  reads : value part.2 = .ok (member.2, [])

/-- What is passed over before the name of a member, and the name. -/
theorem nextName_grammatical {first : Bool} {name : String} {s rest : Bytes}
    (success : nextName first s = .ok (some name, rest)) :
    ∃ before blanks taken, s = before ++ (blanks ++ (quote :: taken ++ rest)) ∧ IsBlank blanks ∧
      IsQuoted (quote :: taken) ∧ textBody taken = .ok (name, []) ∧
      (first = true ∧ before = [] ∨
        first = false ∧ ∃ gap, IsBlank gap ∧ before = gap ++ [comma]) := by
  obtain ⟨none, -⟩ | ⟨isFirst, found, t, same, skipped, read⟩ |
    ⟨notFirst, found, t, u, same, skipped, after, read⟩ := nextName_cases success
  · cases none
  · cases same
    obtain ⟨blanks, rfl, blank⟩ := exists_blanks_of_skipBlank skipped
    obtain ⟨taken, rfl, quoted, alone⟩ := textBody_grammatical read
    exact ⟨[], blanks, taken, rfl, blank, quoted, alone, .inl ⟨isFirst, rfl⟩⟩
  · cases same
    obtain ⟨gap, rfl, gapBlank⟩ := exists_blanks_of_skipBlank skipped
    obtain ⟨blanks, rfl, blank⟩ := exists_blanks_of_skipBlank after
    obtain ⟨taken, rfl, quoted, alone⟩ := textBody_grammatical read
    exact ⟨gap ++ [comma], blanks, taken, by simp, blank, quoted, alone,
      .inr ⟨notFirst, gap, gapBlank, rfl⟩⟩

/-- What is taken behind the name of a member. -/
theorem keptMember_grammatical {value : Bytes → Scan Document} (takes : TakesValues value)
    {done kept : Members} {name : String} {s rest : Bytes}
    (success : keptMember value done name s = .ok (kept, rest)) :
    ∃ gap lead t document, s = gap ++ colon :: (lead ++ (t ++ rest)) ∧ IsBlank gap ∧ IsBlank lead ∧
      IsPhrase .value t ∧ value t = .ok (document, []) ∧ kept = (name, document) :: done := by
  obtain ⟨⟨document, behind⟩, named, equal⟩ := eq_ok_of_map_eq_ok success
  cases equal
  unfold namedValue at named
  split at named
  · cases named
  · next behindColon passed =>
    obtain ⟨lead, t, rfl, leadBlank, isValue, reads⟩ := takes _ _ _ named
    unfold nameColon at passed
    split at passed
    · cases passed
    · next found =>
      cases passed
      obtain ⟨gap, rfl, gapBlank⟩ := exists_blanks_of_skipBlank found
      exact ⟨gap, lead, t, document, rfl, gapBlank, leadBlank, isValue, reads, rfl⟩
    · cases passed

theorem membersFrom_grammatical {value : Bytes → Scan Document} (takes : TakesValues value)
    {fuel : Nat} {first : Bool} {done final : Members} {s rest : Bytes}
    (success : membersFrom (keptMember value) fuel first done s = .ok (final, rest)) :
    ∃ inner parts read, s = inner ++ rest ∧ IsPhrase (.members first parts) inner ∧
      final = List.reverse read ++ done ∧ List.Forall₂ (ReadsPart value) parts read ∧
      ∃ u, rest = closeBrace :: u := by
  induction fuel generalizing first done s with
  | zero => cases success
  | succ fuel ih =>
    simp only [membersFrom] at success
    split at success
    · cases success
    · next left next =>
      cases success
      obtain ⟨-, u, found, rfl⟩ | ⟨-, name, -, none, -⟩ | ⟨-, name, -, -, none, -⟩ :=
        nextName_cases next
      · obtain ⟨blanks, rfl, blank⟩ := exists_blanks_of_skipBlank found
        exact ⟨blanks, [], [], rfl, .noMember blank, rfl, .nil, u, rfl⟩
      · cases none
      · cases none
    · next name left next =>
      split at success
      · cases success
      · next kept behind read =>
        obtain ⟨gap, lead, t, document, rfl, gapBlank, leadBlank, isValue, alone, rfl⟩ :=
          keptMember_grammatical takes read
        obtain ⟨inner, parts, others, rfl, more, rfl, each, ends⟩ := ih success
        obtain ⟨before, blanks, taken, rfl, blank, quoted, named, position⟩ :=
          nextName_grammatical next
        have member :=
          IsPhrase.firstMember blank quoted gapBlank leadBlank isValue more
        have reads : ReadsPart value (quote :: taken, t) (name, document) :=
          ⟨⟨taken, rfl, named⟩, isValue, alone⟩
        obtain ⟨rfl, rfl⟩ | ⟨rfl, comma, commaBlank, rfl⟩ := position
        · exact ⟨_, _, (name, document) :: others, by simp, member, by simp, .cons reads each, ends⟩
        · exact ⟨_, _, (name, document) :: others, by simp, .nextMember commaBlank member, by simp,
            .cons reads each, ends⟩

/-! ## Values -/

theorem listBody_grammatical {value : Bytes → Scan Document} (takes : TakesValues value)
    {s rest : Bytes} {document : Document} (success : listBody value s = .ok (document, rest)) :
    ∃ taken texts, openBracket :: s = taken ++ rest ∧ IsListText texts taken ∧
      ∀ t ∈ texts, IsPhrase .value t ∧ ∃ x, value t = .ok (x, []) := by
  obtain ⟨⟨xs, left⟩, read, success⟩ := eq_ok_of_bind_eq_ok success
  obtain ⟨after, closing, success⟩ := eq_ok_of_bind_eq_ok success
  cases success
  obtain ⟨inner, texts, rfl, items, each, u, rfl⟩ := itemsFrom_grammatical takes read
  have passed : listEnd (closeBracket :: u) = .ok u := rfl
  rw [passed] at closing
  cases closing
  exact ⟨openBracket :: (inner ++ [closeBracket]), texts, by simp, ⟨inner, rfl, items⟩, each⟩

theorem objectBody_grammatical {value : Bytes → Scan Document} (takes : TakesValues value)
    {s rest : Bytes} {document : Document} (success : objectBody value s = .ok (document, rest)) :
    ∃ taken parts members, openBrace :: s = taken ++ rest ∧ IsObjectText parts taken ∧
      document = .object members ∧ List.Forall₂ (ReadsPart value) parts members := by
  obtain ⟨⟨done, left⟩, read, success⟩ := eq_ok_of_bind_eq_ok success
  obtain ⟨after, closing, success⟩ := eq_ok_of_bind_eq_ok success
  cases success
  obtain ⟨inner, parts, members, rfl, isMembers, rfl, each, u, rfl⟩ :=
    membersFrom_grammatical takes read
  have passed : objectEnd (closeBrace :: u) = .ok u := rfl
  rw [passed] at closing
  cases closing
  exact ⟨openBrace :: (inner ++ [closeBrace]), parts, members, by simp, ⟨inner, rfl, isMembers⟩,
    by simp, each⟩

/-- The words, and the documents that they are read as. -/
def wordDocuments : List (Bytes × Document) :=
  [(Bytes.ofText "null", .null), (Bytes.ofText "true", .boolean true),
    (Bytes.ofText "false", .boolean false)]

theorem mem_words {word : Bytes × Document} (inside : word ∈ wordDocuments) : word.1 ∈ words := by
  simp only [wordDocuments, List.mem_cons, List.not_mem_nil, or_false] at inside
  rcases inside with rfl | rfl | rfl <;> simp [words]

/-- A value is read in one of five ways, by its first byte. -/
theorem valueFrom_cases {list object : Bytes → Scan Document} {b : UInt8} {s rest : Bytes}
    {document : Document} (success : valueFrom list object b s = .ok (document, rest)) :
    (b = quote ∧ ∃ decoded, textBody s = .ok (decoded, rest) ∧ document = .text decoded) ∨
    (b = openBracket ∧ list s = .ok (document, rest)) ∨
    (b = openBrace ∧ object s = .ok (document, rest)) ∨
    (∃ n, numeral (b :: s) = .ok (n, rest) ∧ document = .number n) ∨
    ∃ word ∈ wordDocuments, b :: s = word.1 ++ rest ∧ document = word.2 := by
  have word : ∀ {c : UInt8} {letters : Bytes} {named : Document},
      (c :: letters, named) ∈ wordDocuments →
      (literal letters s).map (fun s => (named, s)) = .ok (document, rest) →
        ∃ word ∈ wordDocuments, c :: s = word.1 ++ rest ∧ document = word.2 := by
    intro c letters named inside read
    obtain ⟨left, passed, equal⟩ := eq_ok_of_map_eq_ok read
    cases equal
    exact ⟨_, inside, by rw [eq_append_of_literal passed]; rfl, rfl⟩
  unfold valueFrom at success
  split at success
  · next isQuote =>
    obtain ⟨⟨decoded, left⟩, read, equal⟩ := eq_ok_of_map_eq_ok success
    cases equal
    exact .inl ⟨isQuote, decoded, read, rfl⟩
  split at success
  · next isBracket => exact .inr (.inl ⟨isBracket, success⟩)
  split at success
  · next isBrace => exact .inr (.inr (.inl ⟨isBrace, success⟩))
  split at success
  · obtain ⟨⟨n, left⟩, read, equal⟩ := eq_ok_of_map_eq_ok success
    cases equal
    exact .inr (.inr (.inr (.inl ⟨n, read, rfl⟩)))
  refine .inr (.inr (.inr (.inr ?_)))
  split at success
  · next isLetter =>
    subst isLetter
    exact word (.head _) success
  split at success
  · next isLetter =>
    subst isLetter
    exact word (.tail _ (.head _)) success
  split at success
  · next isLetter =>
    subst isLetter
    exact word (.tail _ (.tail _ (.head _))) success
  · cases success

section

variable {list object : Bytes → Scan Document}
  (lists : ∀ s document rest, list s = .ok (document, rest) →
    ∃ taken, openBracket :: s = taken ++ rest ∧ IsPhrase .value taken)
  (objects : ∀ s document rest, object s = .ok (document, rest) →
    ∃ taken, openBrace :: s = taken ++ rest ∧ IsPhrase .value taken)

include lists objects

theorem valueFrom_grammatical {b : UInt8} {s rest : Bytes} {document : Document}
    (success : valueFrom list object b s = .ok (document, rest)) :
    ∃ taken, b :: s = taken ++ rest ∧ IsPhrase .value taken := by
  obtain ⟨rfl, decoded, read, rfl⟩ | ⟨rfl, read⟩ | ⟨rfl, read⟩ | ⟨n, read, rfl⟩ |
    ⟨word, inside, parts, rfl⟩ := valueFrom_cases success
  · obtain ⟨taken, rfl, quoted, -⟩ := textBody_grammatical read
    exact ⟨quote :: taken, rfl, .text quoted⟩
  · exact lists _ _ _ read
  · exact objects _ _ _ read
  · obtain ⟨taken, parts, number⟩ := numeral_grammatical read
    exact ⟨taken, parts, .scalar (.inr number)⟩
  · exact ⟨word.1, parts, .scalar (.inl (mem_words inside))⟩

theorem valueWith_grammatical {s rest : Bytes} {document : Document}
    (success : valueWith list object s = .ok (document, rest)) :
    ∃ blanks t, s = blanks ++ (t ++ rest) ∧ IsBlank blanks ∧ IsPhrase .value t := by
  unfold valueWith at success
  split at success
  · cases success
  · next found =>
    obtain ⟨blanks, rfl, blank⟩ := exists_blanks_of_skipBlank found
    obtain ⟨t, parts, value⟩ := valueFrom_grammatical lists objects success
    exact ⟨blanks, t, by rw [parts], blank, value⟩

end

/-- Of a value that is taken from behind blanks nothing but its own bytes matters. -/
theorem value_alone {depth : Nat} {blanks t rest : Bytes} {document : Document}
    (success : value depth (blanks ++ (t ++ rest)) = .ok (document, rest)) (blank : IsBlank blanks) :
    value depth t = .ok (document, []) := by
  obtain ⟨taken, parts, -, reads⟩ := value_local success
  rw [← List.append_assoc] at parts
  have alone := reads [] (.inr (document.follows_of_endsNumber fun b head => by cases head))
  rw [List.append_nil, ← List.append_cancel_right parts, value_append_of_isBlank depth blank] at alone
  exact alone

theorem takesValues (depth : Nat) : TakesValues (value depth) := by
  induction depth with
  | zero =>
    intro s document rest success
    have never : ∀ (b : UInt8) s d rest, halt (α := Document × Bytes) .nestedTooDeep s = .ok (d, rest) →
        ∃ taken, b :: s = taken ++ rest ∧ IsPhrase .value taken :=
      fun b s d rest equal => by cases equal
    obtain ⟨blanks, t, rfl, blank, isValue⟩ :=
      valueWith_grammatical (never openBracket) (never openBrace) success
    exact ⟨blanks, t, rfl, blank, isValue, value_alone success blank⟩
  | succ depth ih =>
    intro s document rest success
    have lists : ∀ s d rest, listBody (value depth) s = .ok (d, rest) →
        ∃ taken, openBracket :: s = taken ++ rest ∧ IsPhrase .value taken := by
      intro s d rest read
      obtain ⟨taken, _, same, isList, -⟩ := listBody_grammatical ih read
      exact ⟨taken, same, isList.isPhrase⟩
    have objects : ∀ s d rest, objectBody (value depth) s = .ok (d, rest) →
        ∃ taken, openBrace :: s = taken ++ rest ∧ IsPhrase .value taken := by
      intro s d rest read
      obtain ⟨taken, parts, -, same, isObject, -⟩ := objectBody_grammatical ih read
      exact ⟨taken, same, isObject.isPhrase⟩
    obtain ⟨blanks, t, rfl, blank, isValue⟩ :=
      valueWith_grammatical lists objects success
    exact ⟨blanks, t, rfl, blank, isValue, value_alone success blank⟩

/-! ## Documents -/

/-- Whatever is read as a document is a value with blanks around it, which is read alike alone. -/
theorem exists_phrase_of_read? {s : Bytes} {document : Document}
    (complete : read? s = some document) :
    ∃ lead t trail, s = lead ++ (t ++ trail) ∧ IsBlank lead ∧ IsBlank trail ∧ IsPhrase .value t ∧
      value depthLimit t = .ok (document, []) := by
  obtain ⟨trail, read, trailBlank⟩ := read?_eq_some_iff.mp complete
  obtain ⟨lead, t, rfl, leadBlank, isValue, alone⟩ := takesValues _ _ _ _ read
  exact ⟨lead, t, trail, rfl, leadBlank, trailBlank, isValue, alone⟩

/-- An object is read member by member. -/
theorem exists_members_of_read? {lead t trail : Bytes} {parts : List (Bytes × Bytes)}
    {document : Document} (leadBlank : IsBlank lead) (object : IsObjectText parts t)
    (complete : read? (lead ++ (t ++ trail)) = some document) :
    ∃ members, document = .object members ∧
      List.Forall₂ (ReadsPart (value (depthLimit - 1))) parts members := by
  obtain ⟨rest, read, -⟩ := read?_eq_some_iff.mp complete
  rw [value_append_of_isBlank _ leadBlank] at read
  obtain ⟨inner, rfl, isMembers⟩ := object
  have body : objectBody (value (depthLimit - 1)) (inner ++ [closeBrace] ++ trail) =
    .ok (document, rest) := read
  obtain ⟨taken, others, members, same, other, rfl, each⟩ :=
    objectBody_grammatical (takesValues _) body
  obtain ⟨-, rfl, -⟩ := IsObjectText.append_inj ⟨inner, rfl, isMembers⟩ other same
  exact ⟨members, rfl, each⟩

end FrameCourier.Document
