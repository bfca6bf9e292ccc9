import FrameCourier.Proofs.Document.Grammatical

/-!
# Which documents are read

The grammar sets no limits, and the reader has three.  It goes only so many lists and objects deep,
it takes only numbers in the range of floating-point numbers, and it takes only texts that stand for
characters.  A document of the grammar is read exactly if it keeps within these.

For this it is enough that nothing within the limits is refused: what it is read as does not matter
here.
-/

namespace FrameCourier.Document

open Ascii

/-! ## The limits -/

/-- A text in its quotes that stands for characters. -/
def StandsForText (t : Bytes) : Prop :=
  ∃ s decoded, t = quote :: s ∧ textBody s = .ok (decoded, [])

/-- A value with at most `depth` lists and objects around its innermost part, whose numbers are in
range and whose texts, the names of members among them, stand for characters. -/
inductive InLimits : Nat → Bytes → Prop where
  | word {depth : Nat} {t : Bytes} (word : t ∈ words) : InLimits depth t
  | number {depth : Nat} {t : Bytes} {n : Numeral} (inRange : numeral t = .ok (n, [])) :
    InLimits depth t
  | text {depth : Nat} {t : Bytes} (stands : StandsForText t) : InLimits depth t
  | list {depth : Nat} {texts : List Bytes} {t : Bytes} (isList : IsListText texts t)
    (items : ∀ item ∈ texts, InLimits depth item) : InLimits (depth + 1) t
  | object {depth : Nat} {parts : List (Bytes × Bytes)} {t : Bytes}
    (isObject : IsObjectText parts t) (names : ∀ part ∈ parts, StandsForText part.1)
    (values : ∀ part ∈ parts, InLimits depth part.2) : InLimits (depth + 1) t

/-- The bytes are one document within the limits, with blanks around it. -/
def IsComplete (s : Bytes) : Prop :=
  ∃ lead t trail, s = lead ++ (t ++ trail) ∧ IsBlank lead ∧ IsBlank trail ∧ InLimits depthLimit t

/-! ## What is within the limits is read -/

theorem endsNumber_of_endsValue {rest : Bytes} (ends : EndsValue rest) : EndsNumber rest := by
  intro b head
  have delimiter := ends b head
  simp only [isDelimiter, isBlank, Bool.or_eq_true, beq_iff_eq] at delimiter
  rcases delimiter with (((((((rfl | rfl) | rfl) | rfl) | rfl) | rfl) | rfl) | rfl) <;> decide

/-- A value that is read alone is read before anything that ends it. -/
theorem value_append_of_endsValue {depth : Nat} {t rest : Bytes} {document : Document}
    (read : value depth t = .ok (document, [])) (ends : EndsValue rest) :
    value depth (t ++ rest) = .ok (document, rest) := by
  obtain ⟨taken, same, -, reads⟩ := value_local read
  rw [List.append_nil] at same
  subst same
  exact reads rest (.inr (document.follows_of_endsNumber (endsNumber_of_endsValue ends)))

theorem textBody_append {s : Bytes} {decoded : String} (read : textBody s = .ok (decoded, []))
    (rest : Bytes) : textBody (s ++ rest) = .ok (decoded, rest) := by
  obtain ⟨taken, same, -, reads⟩ := textBody_local read
  rw [List.append_nil] at same
  subst same
  exact reads rest trivial

/-- The bytes are read as a value of this depth, up to their end. -/
def IsRead (depth : Nat) (t : Bytes) : Prop := ∃ document, value depth t = .ok (document, [])

/-- The loops over items and members of this depth take the phrase up to what closes it, if its
parts are read one by one. -/
def Phrase.IsTaken (depth : Nat) (s : Bytes) : Phrase → Prop
  | .value => True
  | .items first texts => (∀ t ∈ texts, IsRead depth t) → ∀ fuel done rest, s.length < fuel →
    ∃ xs, itemsFrom (Document.value depth) fuel first done (s ++ closeBracket :: rest) =
      .ok (xs, closeBracket :: rest)
  | .members first parts => (∀ part ∈ parts, StandsForText part.1 ∧ IsRead depth part.2) →
    ∀ fuel done rest, s.length < fuel →
      ∃ final, membersFrom (keptMember (Document.value depth)) fuel first done
        (s ++ closeBrace :: rest) = .ok (final, closeBrace :: rest)

namespace Phrase.IsTaken

variable {depth : Nat} {s blanks : Bytes}

theorem noItem (blank : IsBlank blanks) {first : Bool} :
    (items first []).IsTaken depth blanks := by
  intro _ fuel done rest enough
  obtain ⟨fuel, rfl⟩ := Nat.exists_eq_succ_of_ne_zero (Nat.ne_zero_of_lt enough)
  have ends : Document.nextItem first (blanks ++ closeBracket :: rest) =
      .ok (false, closeBracket :: rest) := nextItem_end (blank.skipBlank rfl rest)
  exact ⟨done.reverse, by simp only [itemsFrom, ends]⟩

theorem firstItem {t : Bytes} {texts : List Bytes} {more : Bytes} (blank : IsBlank blanks)
    (isValue : IsPhrase .value t) (others : IsPhrase (.items false texts) more)
    (othersTaken : (items false texts).IsTaken depth more) :
    (items true (t :: texts)).IsTaken depth (blanks ++ (t ++ more)) := by
  intro each fuel done rest enough
  obtain ⟨fuel, rfl⟩ := Nat.exists_eq_succ_of_ne_zero (Nat.ne_zero_of_lt enough)
  obtain ⟨⟨x, read⟩, eachOther⟩ := List.forall_mem_cons.mp each
  obtain ⟨b, u, rfl, notDelimiter⟩ := isValue.exists_cons
  simp only [isDelimiter, Bool.or_eq_false_iff, beq_eq_false_iff_ne] at notDelimiter
  have goes : Document.nextItem true (blanks ++ (b :: u ++ (more ++ closeBracket :: rest))) =
      .ok (true, b :: u ++ (more ++ closeBracket :: rest)) :=
    nextItem_first (blank.skipBlank notDelimiter.1.1.1.1 _) notDelimiter.1.2
  have ends : EndsValue (more ++ closeBracket :: rest) :=
    others.endsValue (.inl ⟨_, rfl⟩) (endsValue_cons rfl rest)
  have readItem := value_append_of_endsValue read ends
  have enoughMore : more.length < fuel := by
    simp only [List.length_append, List.length_cons] at enough
    omega
  obtain ⟨xs, takes⟩ := othersTaken eachOther fuel (x :: done) rest enoughMore
  refine ⟨xs, ?_⟩
  simp only [List.append_assoc, itemsFrom, goes, readItem, takes]

theorem nextItem {t : Bytes} {texts : List Bytes} (blank : IsBlank blanks)
    (isItems : IsPhrase (.items true (t :: texts)) s)
    (taken : (items true (t :: texts)).IsTaken depth s) :
    (items false (t :: texts)).IsTaken depth (blanks ++ comma :: s) := by
  intro each fuel done rest enough
  obtain ⟨fuel, rfl⟩ := Nat.exists_eq_succ_of_ne_zero (Nat.ne_zero_of_lt enough)
  have enoughItems : s.length < fuel + 1 := by
    simp only [List.length_append, List.length_cons] at enough
    omega
  obtain ⟨xs, takes⟩ := taken each (fuel + 1) done rest enoughItems
  refine ⟨xs, ?_⟩
  rw [← takes]
  -- Behind the comma the loop goes on like at the first item.
  cases isItems with
  | @firstItem lead _ _ more leadBlank isValue others =>
    obtain ⟨b, u, rfl, notDelimiter⟩ := isValue.exists_cons
    simp only [isDelimiter, Bool.or_eq_false_iff, beq_eq_false_iff_ne] at notDelimiter
    have skips := leadBlank.skipBlank notDelimiter.1.1.1.1 (u ++ (more ++ closeBracket :: rest))
    have goes := nextItem_first skips notDelimiter.1.2
    have goesBehind := nextItem_comma (blank.skipBlank rfl _) skips notDelimiter.1.2
    simp only [List.append_assoc, List.cons_append, itemsFrom, goes, goesBehind]

theorem noMember (blank : IsBlank blanks) {first : Bool} :
    (members first []).IsTaken depth blanks := by
  intro _ fuel done rest enough
  obtain ⟨fuel, rfl⟩ := Nat.exists_eq_succ_of_ne_zero (Nat.ne_zero_of_lt enough)
  have ends : nextName first (blanks ++ closeBrace :: rest) = .ok (none, closeBrace :: rest) :=
    nextName_end (blank.skipBlank rfl rest)
  exact ⟨done, by simp only [membersFrom, ends]⟩

theorem firstMember {name gap lead t : Bytes} {parts : List (Bytes × Bytes)} {more : Bytes}
    (blank : IsBlank blanks) (gapBlank : IsBlank gap) (leadBlank : IsBlank lead)
    (others : IsPhrase (.members false parts) more)
    (othersTaken : (members false parts).IsTaken depth more) :
    (members true ((name, t) :: parts)).IsTaken depth
      (blanks ++ (name ++ (gap ++ colon :: (lead ++ (t ++ more))))) := by
  intro each fuel done rest enough
  obtain ⟨fuel, rfl⟩ := Nat.exists_eq_succ_of_ne_zero (Nat.ne_zero_of_lt enough)
  obtain ⟨⟨⟨s, decoded, rfl, named⟩, x, read⟩, eachOther⟩ := List.forall_mem_cons.mp each
  have readName := textBody_append named
    (gap ++ colon :: (lead ++ (t ++ (more ++ closeBrace :: rest))))
  have goes := nextName_first (blank.skipBlank rfl _) readName
  have passes := nameColon_of_skipBlank
    (gapBlank.skipBlank rfl (lead ++ (t ++ (more ++ closeBrace :: rest))))
  have ends : EndsValue (more ++ closeBrace :: rest) :=
    others.endsValue (.inr ⟨_, rfl⟩) (endsValue_cons rfl rest)
  have readValue := value_append_of_endsValue read ends
  have kept : keptMember (Document.value depth) done decoded
      (gap ++ colon :: (lead ++ (t ++ (more ++ closeBrace :: rest)))) =
      .ok ((decoded, x) :: done, more ++ closeBrace :: rest) := by
    simp only [keptMember, namedValue, passes, value_append_of_isBlank depth leadBlank, readValue,
      Except.map]
  have enoughMore : more.length < fuel := by
    simp only [List.length_append, List.length_cons] at enough
    omega
  obtain ⟨final, takes⟩ := othersTaken eachOther fuel ((decoded, x) :: done) rest enoughMore
  refine ⟨final, ?_⟩
  simp only [List.append_assoc, List.cons_append, membersFrom, goes, kept, takes]

theorem nextMember {part : Bytes × Bytes} {parts : List (Bytes × Bytes)} (blank : IsBlank blanks)
    (isMembers : IsPhrase (.members true (part :: parts)) s)
    (taken : (members true (part :: parts)).IsTaken depth s) :
    (members false (part :: parts)).IsTaken depth (blanks ++ comma :: s) := by
  intro each fuel done rest enough
  obtain ⟨fuel, rfl⟩ := Nat.exists_eq_succ_of_ne_zero (Nat.ne_zero_of_lt enough)
  have enoughMembers : s.length < fuel + 1 := by
    simp only [List.length_append, List.length_cons] at enough
    omega
  obtain ⟨final, takes⟩ := taken each (fuel + 1) done rest enoughMembers
  refine ⟨final, ?_⟩
  rw [← takes]
  -- Behind the comma the loop goes on like at the first member.
  cases isMembers with
  | @firstMember lead _ gap _ t _ more leadBlank quoted gapBlank _ isValue others =>
    obtain ⟨⟨u, decoded, rfl, named⟩, -⟩ := each _ List.mem_cons_self
    have skips := leadBlank.skipBlank (b := quote) rfl
    have goes := fun rest => nextName_first (skips _) (textBody_append named rest)
    have goesBehind := fun rest =>
      nextName_comma (blank.skipBlank rfl _) (skips _) (textBody_append named rest)
    simp only [List.append_assoc, List.cons_append, membersFrom, goes, goesBehind]

end Phrase.IsTaken

theorem IsPhrase.isTaken {phrase : Phrase} {s : Bytes} (isPhrase : IsPhrase phrase s)
    (depth : Nat) : phrase.IsTaken depth s := by
  induction isPhrase with
  | scalar => trivial
  | text => trivial
  | list => trivial
  | object => trivial
  | noItem blank => exact .noItem blank
  | firstItem blank isValue others _ ih => exact .firstItem blank isValue others ih
  | nextItem blank isItems ih => exact .nextItem blank isItems ih
  | noMember blank => exact .noMember blank
  | firstMember blank _ gapBlank leadBlank _ others _ ih =>
    exact .firstMember blank gapBlank leadBlank others ih
  | nextMember blank isMembers ih => exact .nextMember blank isMembers ih

theorem Spells.isRead {depth : Nat} {s : Bytes} {document : Document}
    (spells : Spells depth s document) : IsRead depth s := by
  have follows : document.Follows [] := document.follows_of_endsNumber fun b head => by cases head
  have read := spells.value follows
  rw [List.append_nil] at read
  exact ⟨document, read⟩

/-- What is within the limits is not refused. -/
theorem InLimits.isRead {depth : Nat} {t : Bytes} (limits : InLimits depth t) : IsRead depth t := by
  induction limits with
  | word word =>
    simp only [words, List.map_cons, List.map_nil, List.mem_cons, List.not_mem_nil, or_false] at word
    rcases word with rfl | rfl | rfl
    · exact Spells.null.isRead
    · exact (Spells.boolean true).isRead
    · exact (Spells.boolean false).isRead
  | number inRange => exact (Spells.number inRange).isRead
  | @text depth t stands =>
    obtain ⟨s, decoded, rfl, named⟩ := stands
    obtain ⟨list, object, equal⟩ := exists_value_eq_valueWith depth
    refine ⟨.text decoded, ?_⟩
    rw [equal, valueWith_cons rfl, valueFrom, if_pos rfl, named]
    rfl
  | @list depth texts t isList _ ih =>
    obtain ⟨inner, rfl, isItems⟩ := isList
    have enough : inner.length < (inner ++ [closeBracket]).length + 1 := by
      rw [List.length_append]
      omega
    obtain ⟨xs, read⟩ := isItems.isTaken depth ih _ [] [] enough
    have body : items (value depth) (inner ++ [closeBracket]) = .ok (xs, [closeBracket]) := read
    have closes : listEnd [closeBracket] = .ok [] := rfl
    refine ⟨.list xs, ?_⟩
    show listBody (value depth) (inner ++ [closeBracket]) = _
    simp only [listBody, body, bind, Except.bind, closes, pure, Except.pure]
  | @object depth parts t isObject names _ ih =>
    obtain ⟨inner, rfl, isMembers⟩ := isObject
    have enough : inner.length < (inner ++ [closeBrace]).length + 1 := by
      rw [List.length_append]
      omega
    obtain ⟨final, read⟩ := isMembers.isTaken depth
      (fun part inside => ⟨names part inside, ih part inside⟩) _ [] [] enough
    have body : members (keptMember (value depth)) [] (inner ++ [closeBrace]) =
      .ok (final, [closeBrace]) := read
    have closes : objectEnd [closeBrace] = .ok [] := rfl
    refine ⟨.object final.reverse, ?_⟩
    show objectBody (value depth) (inner ++ [closeBrace]) = _
    simp only [objectBody, body, bind, Except.bind, closes, pure, Except.pure]

/-! ## What is read is within the limits -/

theorem inLimits_of_valueFrom {list object : Bytes → Scan Document} {depth : Nat}
    (lists : ∀ s d, list s = .ok (d, []) → InLimits depth (openBracket :: s))
    (objects : ∀ s d, object s = .ok (d, []) → InLimits depth (openBrace :: s)) {b : UInt8}
    {s : Bytes} {document : Document} (read : valueFrom list object b s = .ok (document, [])) :
    InLimits depth (b :: s) := by
  obtain ⟨rfl, decoded, named, -⟩ | ⟨rfl, isList⟩ | ⟨rfl, isObject⟩ | ⟨n, inRange, -⟩ |
    ⟨word, inside, parts, -⟩ := valueFrom_cases read
  · exact .text ⟨s, decoded, rfl, named⟩
  · exact lists s document isList
  · exact objects s document isObject
  · exact .number inRange
  · rw [parts, List.append_nil]
    exact .word (mem_words inside)

theorem inLimits_of_isRead {depth : Nat} {t : Bytes} (isValue : IsPhrase .value t)
    (isRead : IsRead depth t) : InLimits depth t := by
  induction depth generalizing t with
  | zero =>
    obtain ⟨document, read⟩ := isRead
    obtain ⟨b, s, rfl, notBlank⟩ := isValue.isSolid
    rw [value, valueWith_cons notBlank] at read
    have never : ∀ (b : UInt8) s d, halt (α := Document × Bytes) .nestedTooDeep s = .ok (d, []) →
        InLimits 0 (b :: s) := fun b s d equal => by cases equal
    exact inLimits_of_valueFrom (never openBracket) (never openBrace) read
  | succ depth ih =>
    obtain ⟨document, read⟩ := isRead
    obtain ⟨b, s, rfl, notBlank⟩ := isValue.isSolid
    rw [value, valueWith_cons notBlank] at read
    refine inLimits_of_valueFrom (fun s d isList => ?_) (fun s d isObject => ?_) read
    · obtain ⟨taken, texts, same, list, each⟩ := listBody_grammatical (takesValues depth) isList
      rw [List.append_nil] at same
      rw [same]
      exact .list list fun item inside => ih (each item inside).1 (each item inside).2
    · obtain ⟨taken, parts, members, same, object, -, each⟩ :=
        objectBody_grammatical (takesValues depth) isObject
      rw [List.append_nil] at same
      rw [same]
      have reads : ∀ part ∈ parts, ∃ member, ReadsPart (value depth) part member :=
        ((List.forall₂_and_left parts members).mp
          (each.imp fun part member reads => ⟨⟨member, reads⟩, reads⟩)).1
      refine .object object (fun part inside => ?_) fun part inside => ?_
      · obtain ⟨member, reads⟩ := reads part inside
        obtain ⟨s, written, named⟩ := reads.named
        exact ⟨s, member.1, written, named⟩
      · obtain ⟨member, reads⟩ := reads part inside
        exact ih reads.isValue ⟨member.2, reads.reads⟩

/-! ## Documents -/

/-- A document is read exactly if it is complete. -/
theorem isSome_read?_iff {s : Bytes} : (read? s).isSome = true ↔ IsComplete s := by
  constructor
  · intro complete
    obtain ⟨document, complete⟩ := Option.isSome_iff_exists.mp complete
    obtain ⟨lead, t, trail, rfl, leadBlank, trailBlank, isValue, alone⟩ :=
      exists_phrase_of_read? complete
    exact ⟨lead, t, trail, rfl, leadBlank, trailBlank, inLimits_of_isRead isValue ⟨document, alone⟩⟩
  · rintro ⟨lead, t, trail, rfl, leadBlank, trailBlank, limits⟩
    obtain ⟨document, read⟩ := limits.isRead
    have before : EndsValue trail := by
      have ends := trailBlank.endsValue_append (show EndsValue [] from fun b head => by cases head)
      rwa [List.append_nil] at ends
    have complete : read? (lead ++ (t ++ trail)) = some document := by
      refine read?_eq_some_iff.mpr ⟨trail, ?_, trailBlank⟩
      rw [value_append_of_isBlank _ leadBlank, value_append_of_endsValue read before]
    rw [complete]
    rfl

end FrameCourier.Document
