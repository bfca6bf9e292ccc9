import FrameCourier.Proofs.Document.Loops

/-!
# Documents are read as they are written

Bytes spell a document if its parts are spelled in them, with blanks between these.  Both
printers spell: the compact one without blanks, the pretty one with line breaks.  What is
spelled is read back whatever follows, unless a number goes on.

A number is not always read as the one that was written, so a document is spelled with what is
read in the place of each of its numbers.
-/

namespace FrameCourier.Document

open Ascii

/-! ## Spelling -/

/-- Bytes that spell a document with at most `depth` lists and objects around its innermost
part. -/
inductive Spells : Nat → Bytes → Document → Prop where
  | null {depth : Nat} : Spells depth (Bytes.ofText "null") .null
  | boolean {depth : Nat} (value : Bool) : Spells depth (compact (.boolean value)) (.boolean value)
  | number {depth : Nat} {s : Bytes} {n : Numeral} (reads : numeral s = .ok (n, [])) :
    Spells depth s (.number n)
  | text {depth : Nat} (value : String) : Spells depth (textLiteral value) (.text value)
  | list {depth : Nat} {gap last : Bytes} (gapBlank : IsBlank gap) (lastBlank : IsBlank last)
    {parts : List (Bytes × Document)} (items : ∀ part ∈ parts, Spells depth part.1 part.2) :
    Spells (depth + 1)
      (openBracket ::
        (gap ++ (joined (comma :: gap) (parts.map (·.1)) ++ (last ++ [closeBracket]))))
      (.list (parts.map (·.2)))
  | object {depth : Nat} {gap behind last : Bytes} (gapBlank : IsBlank gap)
    (behindBlank : IsBlank behind) (lastBlank : IsBlank last)
    {parts : List (String × Bytes × Document)}
    (values : ∀ part ∈ parts, Spells depth part.2.1 part.2.2) :
    Spells (depth + 1)
      (openBrace ::
        (gap ++ (joined (comma :: gap)
          ((parts.map fun part => (part.1, behind ++ part.2.1)).map namedPart) ++
            (last ++ [closeBrace]))))
      (.object (parts.map fun part => (part.1, part.2.2)))

theorem Spells.startsOpen {depth : Nat} {s : Bytes} {document : Document}
    (spells : Spells depth s document) : StartsOpen s := by
  cases spells with
  | null => exact ⟨_, _, rfl, rfl⟩
  | boolean value => cases value <;> exact ⟨_, _, rfl, rfl⟩
  | number reads =>
    obtain ⟨b, t, written, starts⟩ := startsNumber_of_numeral reads
    exact ⟨b, t, written, isOpening_of_startsNumber starts⟩
  | text value => exact ⟨quote, _, rfl, rfl⟩
  | list gapBlank lastBlank items => exact ⟨openBracket, _, rfl, rfl⟩
  | object gapBlank behindBlank lastBlank values => exact ⟨openBrace, _, rfl, rfl⟩

/-! ## Reading what is spelled -/

theorem valueWith_cons {list object : Bytes → Scan Document} {b : UInt8}
    (notBlank : isBlank b = false) (s : Bytes) :
    valueWith list object (b :: s) = valueFrom list object b s := by
  unfold valueWith
  rw [skipBlank_of_not_isBlank notBlank]

/-- At every depth the first byte decides how a value is read. -/
theorem exists_value_eq_valueWith (depth : Nat) :
    ∃ list object, value depth = valueWith list object := by
  cases depth with
  | zero => exact ⟨_, _, rfl⟩
  | succ depth => exact ⟨_, _, rfl⟩

/-- Blanks before a value are passed over. -/
theorem value_append_of_isBlank (depth : Nat) {blanks : Bytes} (blank : IsBlank blanks) (s : Bytes) :
    value depth (blanks ++ s) = value depth s := by
  obtain ⟨list, object, equal⟩ := exists_value_eq_valueWith depth
  rw [equal, valueWith, valueWith, skipBlank_append blank]

theorem valueFrom_number {list object : Bytes → Scan Document} {b : UInt8}
    (starts : (b = minus || isDigit b) = true) (s : Bytes) :
    valueFrom list object b s = (numeral (b :: s)).map fun (n, s) => (.number n, s) := by
  have others : b ≠ quote ∧ b ≠ openBracket ∧ b ≠ openBrace := by
    refine ⟨?_, ?_, ?_⟩ <;>
      · rintro rfl
        exact absurd starts (by decide)
  obtain ⟨notQuote, notBracket, notBrace⟩ := others
  simp only [valueFrom, notQuote, notBracket, notBrace, starts, if_true, if_false]

theorem follows_of_endsNumber (document : Document) {rest : Bytes} (ends : EndsNumber rest) :
    document.Follows rest := by
  cases document with
  | number n => exact ends
  | _ => trivial

theorem keptMember_of_value {depth : Nat} {behind part rest : Bytes} {name : String}
    {document : Document} (behindBlank : IsBlank behind)
    (read : value depth (part ++ rest) = .ok (document, rest)) (done : Members) :
    keptMember (value depth) done name (colon :: ((behind ++ part) ++ rest)) =
      .ok ((name, document) :: done, rest) := by
  have passes : nameColon (colon :: ((behind ++ part) ++ rest)) = .ok ((behind ++ part) ++ rest) :=
    nameColon_of_skipBlank (skipBlank_of_not_isBlank rfl _)
  have readBehind : value depth ((behind ++ part) ++ rest) = .ok (document, rest) := by
    rw [List.append_assoc, value_append_of_isBlank depth behindBlank, read]
  simp only [keptMember, namedValue, passes, readBehind, Except.map]

/-- Members that are kept one after the other. -/
theorem readsMembers_keptMember {depth : Nat} {behind : Bytes} (behindBlank : IsBlank behind)
    {parts : List (String × Bytes × Document)}
    (reads : ∀ part ∈ parts, ∀ rest, EndsNumber rest →
      value depth (part.2.1 ++ rest) = .ok (part.2.2, rest)) (done : Members) :
    ReadsMembers (keptMember (value depth)) done
      (parts.map fun part => (part.1, behind ++ part.2.1))
      ((parts.map fun part => (part.1, part.2.2)).reverse ++ done) := by
  induction parts generalizing done with
  | nil => exact .none done
  | cons part parts ih =>
    have others := ih (fun other member => reads other (by simp [member]))
      ((part.1, part.2.2) :: done)
    rw [List.map_cons, List.map_cons, List.reverse_cons, List.append_assoc, List.singleton_append]
    exact .more (fun rest ends => keptMember_of_value behindBlank (reads part (by simp) rest ends) done)
      others

/-- A document is read from bytes that spell it, whatever follows, unless a number goes on. -/
theorem Spells.value {depth : Nat} {s : Bytes} {document : Document}
    (spells : Spells depth s document) {rest : Bytes} (follows : document.Follows rest) :
    value depth (s ++ rest) = .ok (document, rest) := by
  induction spells generalizing rest with
  | @null depth =>
    obtain ⟨list, object, equal⟩ := exists_value_eq_valueWith depth
    rw [equal]
    show (literal "ull".toUTF8.data.toList ("ull".toUTF8.data.toList ++ rest)).map
      (fun s => (Document.null, s)) = _
    rw [literal_append]
    rfl
  | @boolean depth value =>
    obtain ⟨list, object, equal⟩ := exists_value_eq_valueWith depth
    rw [equal]
    cases value with
    | true =>
      show (literal "rue".toUTF8.data.toList ("rue".toUTF8.data.toList ++ rest)).map
        (fun s => (Document.boolean true, s)) = _
      rw [literal_append]
      rfl
    | false =>
      show (literal "alse".toUTF8.data.toList ("alse".toUTF8.data.toList ++ rest)).map
        (fun s => (Document.boolean false, s)) = _
      rw [literal_append]
      rfl
  | @number depth s n reads =>
    obtain ⟨list, object, equal⟩ := exists_value_eq_valueWith depth
    obtain ⟨b, t, rfl, starts⟩ := startsNumber_of_numeral reads
    have notBlank := (isOpening_separate (isOpening_of_startsNumber starts)).1
    have read := numeral_append reads follows
    rw [List.cons_append] at read
    rw [equal, List.cons_append, valueWith_cons notBlank, valueFrom_number starts, read]
    rfl
  | @text depth decoded =>
    obtain ⟨list, object, equal⟩ := exists_value_eq_valueWith depth
    obtain ⟨t, written, read⟩ := textBody_name decoded rest
    rw [equal, written, valueWith_cons rfl, valueFrom, if_pos rfl, read]
    rfl
  | @list depth gap last gapBlank lastBlank parts items ih =>
    have reads : ∀ part ∈ parts, ReadsItem (Document.value depth) part.1 part.2 := fun part member =>
      ⟨(items part member).startsOpen, fun _ ends =>
        ih part member (part.2.follows_of_endsNumber ends)⟩
    have read := items_joined gapBlank lastBlank reads rest
    have closes : listEnd (closeBracket :: rest) = .ok rest :=
      listEnd_of_skipBlank (skipBlank_of_not_isBlank rfl rest)
    simp only [List.cons_append, List.append_assoc, List.nil_append]
    show listBody (Document.value depth) _ = _
    simp only [listBody, read, bind, Except.bind, closes, pure, Except.pure]
  | @object depth gap behind last gapBlank behindBlank lastBlank parts values ih =>
    have kept := readsMembers_keptMember behindBlank (fun part member _ ends =>
      ih part member (part.2.2.follows_of_endsNumber ends)) []
    have read := members_joined gapBlank lastBlank kept rest
    have closes : objectEnd (closeBrace :: rest) = .ok rest :=
      objectEnd_of_skipBlank (skipBlank_of_not_isBlank rfl rest)
    simp only [List.cons_append, List.append_assoc, List.nil_append]
    show objectBody (Document.value depth) _ = _
    simp only [objectBody, read, bind, Except.bind, closes, pure, Except.pure, List.append_nil,
      List.reverse_reverse]

/-- A document is the only one that its spelling is read as. -/
theorem Spells.read? {s : Bytes} {document : Document} (spells : Spells depthLimit s document) :
    read? s = some document := by
  have follows : document.Follows [] := document.follows_of_endsNumber fun b head => by cases head
  have read := spells.value follows
  rw [List.append_nil] at read
  simp [Document.read?, read, skipBlank]

/-! ## What is read in the place of numbers -/

mutual

/-- The document with what `read` gives for them in the place of its numbers. -/
def withNumbers (read : Numeral → Document) : Document → Document
  | .number n => read n
  | .list xs => .list (itemsWithNumbers read xs)
  | .object members => .object (membersWithNumbers read members)
  | scalar => scalar

def itemsWithNumbers (read : Numeral → Document) : List Document → List Document
  | [] => []
  | x :: xs => withNumbers read x :: itemsWithNumbers read xs

def membersWithNumbers (read : Numeral → Document) :
    List (String × Document) → List (String × Document)
  | [] => []
  | (name, x) :: members => (name, withNumbers read x) :: membersWithNumbers read members

end

theorem itemsWithNumbers_eq_map (read : Numeral → Document) (xs : List Document) :
    itemsWithNumbers read xs = xs.map (withNumbers read) := by
  induction xs with
  | nil => rfl
  | cons x xs ih => simp [itemsWithNumbers, ih]

theorem membersWithNumbers_eq_map (read : Numeral → Document) (members : Members) :
    membersWithNumbers read members = members.map fun m => (m.1, withNumbers read m.2) := by
  induction members with
  | nil => rfl
  | cons member members ih => simp [membersWithNumbers, ih]

/-- What is read where a number is written. -/
inductive Numeral.ReadAs (n : Numeral) : Document → Prop where
  | number {m : Numeral} (reads : numeral (numberLiteral n) = .ok (m, [])) : ReadAs n (.number m)
  | null (written : numberLiteral n = Bytes.ofText "null") : ReadAs n .null

theorem Numeral.ReadAs.spells {n : Numeral} {document : Document} (readAs : Numeral.ReadAs n document)
    {depth : Nat} : Spells depth (numberLiteral n) document := by
  cases readAs with
  | number reads => exact .number reads
  | null written =>
    rw [written]
    exact .null

theorem Numeral.ReadsBack.readAs {n : Numeral} (reads : Numeral.ReadsBack n) :
    Numeral.ReadAs n (.number n) := by
  have alone := reads [] fun b head => by cases head
  rw [List.append_nil] at alone
  exact .number alone

/-- A document at most `depth` lists and objects deep each of whose numbers is read as `read`
says. -/
inductive Legible (read : Numeral → Document) : Nat → Document → Prop where
  | null {depth : Nat} : Legible read depth .null
  | boolean {depth : Nat} (value : Bool) : Legible read depth (.boolean value)
  | number {depth : Nat} {n : Numeral} (readAs : Numeral.ReadAs n (read n)) : Legible read depth (.number n)
  | text {depth : Nat} (value : String) : Legible read depth (.text value)
  | list {depth : Nat} {xs : List Document} (items : ∀ x ∈ xs, Legible read depth x) :
    Legible read (depth + 1) (.list xs)
  | object {depth : Nat} {members : Members} (values : ∀ m ∈ members, Legible read depth m.2) :
    Legible read (depth + 1) (.object members)

/-- A document whose numbers are all read as they are written. -/
abbrev Readable : Nat → Document → Prop := Legible .number

theorem Legible.withNumbers_number {depth : Nat} {document : Document}
    (readable : Readable depth document) : document.withNumbers .number = document := by
  induction readable with
  | list items ih =>
    rw [withNumbers, itemsWithNumbers_eq_map]
    congr 1
    exact (List.map_congr_left ih).trans (List.map_id _)
  | object values ih =>
    rw [withNumbers, membersWithNumbers_eq_map]
    congr 1
    refine (List.map_congr_left fun m inside => ?_).trans (List.map_id _)
    rw [ih m inside]
    rfl
  | _ => rfl

/-! ## The printers spell -/

theorem compactItems_eq_map (xs : List Document) : compactItems xs = xs.map compact := by
  induction xs with
  | nil => rfl
  | cons x xs ih => simp [compactItems, ih]

theorem compactMembers_eq_map (members : Members) :
    compactMembers members = members.map fun m => namedPart (m.1, compact m.2) := by
  induction members with
  | nil => rfl
  | cons member members ih => simp [compactMembers, namedPart, ih]

theorem Legible.spells_compact {read : Numeral → Document} {depth : Nat} {document : Document}
    (legible : Legible read depth document) :
    Spells depth document.compact (document.withNumbers read) := by
  induction legible with
  | null => exact .null
  | boolean value => exact .boolean value
  | number readAs => exact readAs.spells
  | text value => exact .text value
  | @list depth xs items ih =>
    have spelled : ∀ part ∈ xs.map fun x => (x.compact, x.withNumbers read),
        Spells depth part.1 part.2 := by
      intro part member
      obtain ⟨x, inside, rfl⟩ := List.mem_map.mp member
      exact ih x inside
    have whole := Spells.list isBlank_nil isBlank_nil spelled
    rw [compact, withNumbers, compactItems_eq_map, itemsWithNumbers_eq_map]
    simpa [Function.comp_def] using whole
  | @object depth members values ih =>
    have spelled : ∀ part ∈ members.map fun m => (m.1, m.2.compact, m.2.withNumbers read),
        Spells depth part.2.1 part.2.2 := by
      intro part member
      obtain ⟨m, inside, rfl⟩ := List.mem_map.mp member
      exact ih m inside
    have whole := Spells.object isBlank_nil isBlank_nil isBlank_nil spelled
    rw [compact, withNumbers, compactMembers_eq_map, membersWithNumbers_eq_map]
    simpa [Function.comp_def] using whole

theorem isBlank_lineBreak (depth : Nat) : IsBlank (lineBreak depth) := by
  intro b inside
  rcases List.mem_cons.mp inside with rfl | blank
  · rfl
  · rw [List.eq_of_mem_replicate blank]
    rfl

theorem prettyItems_eq_map (depth : Nat) (xs : List Document) :
    prettyItems depth xs = xs.map (prettyAt depth) := by
  induction xs with
  | nil => rfl
  | cons x xs ih => simp [prettyItems, ih]

theorem prettyMembers_eq_map (depth : Nat) (members : Members) :
    prettyMembers depth members = members.map fun m => namedPart (m.1, [space] ++ prettyAt depth m.2) := by
  induction members with
  | nil => rfl
  | cons member members ih => simp [prettyMembers, namedPart, ih]

/-- A document over several lines, from any line on. -/
theorem Legible.spells_prettyAt {read : Numeral → Document} {depth : Nat} {document : Document}
    (legible : Legible read depth document) (line : Nat) :
    Spells depth (prettyAt line document) (document.withNumbers read) := by
  induction legible generalizing line with
  | null => exact .null
  | boolean value =>
    cases value with
    | true => exact .boolean true
    | false => exact .boolean false
  | number readAs => exact readAs.spells
  | text value => exact .text value
  | @list depth xs items ih =>
    have spelled : ∀ part ∈ xs.map fun x => (prettyAt (line + 1) x, x.withNumbers read),
        Spells depth part.1 part.2 := by
      intro part member
      obtain ⟨x, inside, rfl⟩ := List.mem_map.mp member
      exact ih x inside (line + 1)
    rw [withNumbers, itemsWithNumbers_eq_map]
    cases xs with
    | nil => exact Spells.list isBlank_nil isBlank_nil spelled
    | cons x xs =>
      have whole := Spells.list (isBlank_lineBreak (line + 1)) (isBlank_lineBreak line) spelled
      rw [prettyAt, prettyItems_eq_map]
      · simpa [Function.comp_def] using whole
      · simp
  | @object depth members values ih =>
    have spelled : ∀ part ∈ members.map fun m => (m.1, prettyAt (line + 1) m.2, m.2.withNumbers read),
        Spells depth part.2.1 part.2.2 := by
      intro part member
      obtain ⟨m, inside, rfl⟩ := List.mem_map.mp member
      exact ih m inside (line + 1)
    have spaceBlank : IsBlank [space] := by decide
    rw [withNumbers, membersWithNumbers_eq_map]
    cases members with
    | nil => exact Spells.object isBlank_nil isBlank_nil isBlank_nil spelled
    | cons m members =>
      have whole := Spells.object (isBlank_lineBreak (line + 1)) spaceBlank (isBlank_lineBreak line)
        spelled
      rw [prettyAt, prettyMembers_eq_map]
      · simpa [Function.comp_def] using whole
      · simp

/-! ## The round trip -/

/-- A document is read from its bytes, whatever follows, unless a number goes on. -/
theorem value_compact {depth : Nat} {document : Document} (readable : Readable depth document)
    {rest : Bytes} (follows : document.Follows rest) :
    value depth (document.compact ++ rest) = .ok (document, rest) := by
  have spells := readable.spells_compact
  rw [readable.withNumbers_number] at spells
  exact spells.value follows

/-- A document is the only one that its bytes are read as. -/
theorem read?_compact {document : Document} (readable : Readable depthLimit document) :
    read? document.compact = some document := by
  have spells := readable.spells_compact
  rw [readable.withNumbers_number] at spells
  exact spells.read?

end FrameCourier.Document
