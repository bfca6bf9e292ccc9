import FrameCourier.Proofs.Document.Locality.Value
import FrameCourier.Proofs.Document.Texts

/-!
# Lists and objects are read part by part

Parts of a list or an object have commas between them and may have blanks before and behind
them.  A reader that reads every part alone reads them all, one after the other, and stops at
the bracket or brace behind the last one.
-/

namespace FrameCourier.Document

open Ascii

variable {α : Type}

/-- Bytes that are nothing but blanks. -/
def IsBlank (s : Bytes) : Prop := ∀ b ∈ s, isBlank b = true

instance (s : Bytes) : Decidable (IsBlank s) := List.decidableBAll _ s

theorem isBlank_nil : IsBlank [] := fun _ inside => by cases inside

theorem IsBlank.skipBlank {blanks : Bytes} (blank : IsBlank blanks) {b : UInt8}
    (notBlank : isBlank b = false) (s : Bytes) :
    skipBlank (blanks ++ b :: s) = b :: s := by
  rw [skipBlank_append blank, skipBlank_of_not_isBlank notBlank]

/-! ## How values start and numbers end -/

/-- A byte that a value can start with. -/
def isOpening (b : UInt8) : Bool :=
  b == quote || b == openBracket || b == openBrace || b == minus || isDigit b || b == lowerN ||
    b == lowerT || b == lowerF

/-- Bytes whose first one can start a value. -/
def StartsOpen (s : Bytes) : Prop := ∃ b t, s = b :: t ∧ isOpening b = true

/-- A byte that starts a value is neither blank nor a closing bracket. -/
theorem isOpening_separate {b : UInt8} (opening : isOpening b = true) :
    isBlank b = false ∧ b ≠ closeBracket := by
  constructor
  · rw [Bool.eq_false_iff]
    intro blank
    simp only [isBlank, Bool.or_eq_true, beq_iff_eq] at blank
    rcases blank with ((rfl | rfl) | rfl) | rfl <;> exact absurd opening (by decide)
  · rintro rfl
    exact absurd opening (by decide)

theorem isOpening_of_startsNumber {b : UInt8} (starts : (b = minus || isDigit b) = true) :
    isOpening b = true := by
  rcases Bool.or_eq_true _ _ ▸ starts with isMinus | digit
  · simp [isOpening, of_decide_eq_true isMinus]
  · simp [isOpening, digit]

/-- A number starts with a sign or a digit. -/
theorem startsNumber_of_numeral {s rest : Bytes} {n : Numeral}
    (success : numeral s = .ok (n, rest)) :
    ∃ b t, s = b :: t ∧ (b = minus || isDigit b) = true := by
  unfold numeral at success
  split at success
  · next t => exact ⟨minus, t, rfl, rfl⟩
  · next notMinus =>
    unfold unsignedNumeral at success
    split at success
    · cases success
    · next whole left read =>
      cases s with
      | nil => cases read
      | cons b t =>
        refine ⟨b, t, rfl, ?_⟩
        by_cases digit : isDigit b = true
        · simp [digit]
        · have notZero : b ≠ zero := by
            rintro rfl
            exact digit rfl
          simp [wholeDigits, notZero, digit, halt] at read

theorem StartsOpen.skipBlank {s : Bytes} (opens : StartsOpen s) {blanks : Bytes}
    (blank : IsBlank blanks) (rest : Bytes) :
    ∃ b t, s = b :: t ∧ b ≠ closeBracket ∧ skipBlank (blanks ++ (s ++ rest)) = b :: (t ++ rest) := by
  obtain ⟨b, t, rfl, opening⟩ := opens
  obtain ⟨notBlank, notClosing⟩ := isOpening_separate opening
  exact ⟨b, t, rfl, notClosing, blank.skipBlank notBlank _⟩

theorem endsNumber_comma (s : Bytes) : EndsNumber (comma :: s) := by
  rintro b ⟨⟩
  decide

theorem endsNumber_closeBracket (s : Bytes) : EndsNumber (closeBracket :: s) := by
  rintro b ⟨⟩
  decide

theorem endsNumber_closeBrace (s : Bytes) : EndsNumber (closeBrace :: s) := by
  rintro b ⟨⟩
  decide

/-- A number does not go on with a blank. -/
theorem IsBlank.endsNumber_append {blanks : Bytes} (blank : IsBlank blanks) {rest : Bytes}
    (ends : EndsNumber rest) : EndsNumber (blanks ++ rest) := by
  cases blanks with
  | nil => exact ends
  | cons c blanks =>
    rintro b ⟨⟩
    have isBlankByte : isBlank c = true := blank c List.mem_cons_self
    simp only [isBlank, Bool.or_eq_true, beq_iff_eq] at isBlankByte
    rcases isBlankByte with ((rfl | rfl) | rfl) | rfl <;> decide

/-! ## Parts -/

/-- Behind the first part every part has a separator before it. -/
theorem joined_cons (separator part : Bytes) (parts : List Bytes) :
    joined separator (part :: parts) = part ++ parts.flatMap fun next => separator ++ next := by
  induction parts generalizing part with
  | nil => simp [joined]
  | cons next parts ih => simp [joined, ih]

/-- Parts behind commas and blanks. -/
def followed (gap : Bytes) (parts : List Bytes) : Bytes :=
  parts.flatMap fun part => comma :: (gap ++ part)

theorem joined_eq_followed (gap part : Bytes) (parts : List Bytes) :
    joined (comma :: gap) (part :: parts) = part ++ followed gap parts :=
  joined_cons (comma :: gap) part parts

/-- Every part that follows has a byte at least. -/
theorem length_le_followed (gap : Bytes) (parts : List Bytes) :
    parts.length ≤ (followed gap parts).length := by
  induction parts with
  | nil => exact Nat.le_refl 0
  | cons part parts ih =>
    simp only [followed, List.flatMap_cons, List.length_append, List.length_cons] at ih ⊢
    omega

/-- What follows a part is a comma, a blank, or what stands behind the last one. -/
theorem endsNumber_followed {gap last rest : Bytes} (lastBlank : IsBlank last)
    (ends : EndsNumber rest) (parts : List Bytes) :
    EndsNumber (followed gap parts ++ (last ++ rest)) := by
  cases parts with
  | nil => exact lastBlank.endsNumber_append ends
  | cons part parts => exact endsNumber_comma _

section Items

variable {item : Bytes → Scan α} {gap last : Bytes} (gapBlank : IsBlank gap)
  (lastBlank : IsBlank last)

/-- A part that an item is read from. -/
structure ReadsItem (item : Bytes → Scan α) (part : Bytes) (x : α) : Prop where
  opens : StartsOpen part
  reads : ∀ rest, EndsNumber rest → item (part ++ rest) = .ok (x, rest)

include gapBlank lastBlank

theorem itemsFrom_followed {parts : List (Bytes × α)}
    (items : ∀ part ∈ parts, ReadsItem item part.1 part.2) {fuel : Nat}
    (enough : parts.length < fuel) (done : List α) (rest : Bytes) :
    itemsFrom item fuel false done
      (followed gap (parts.map (·.1)) ++ (last ++ closeBracket :: rest)) =
      .ok (done.reverse ++ parts.map (·.2), closeBracket :: rest) := by
  induction parts generalizing fuel done with
  | nil =>
    cases fuel with
    | zero => omega
    | succ fuel =>
      have ends : nextItem false (last ++ closeBracket :: rest) = .ok (false, closeBracket :: rest) :=
        nextItem_end (lastBlank.skipBlank rfl rest)
      simp only [followed, List.map_nil, List.flatMap_nil, List.nil_append, itemsFrom, ends,
        List.append_nil]
  | cons part parts ih =>
    cases fuel with
    | zero => omega
    | succ fuel =>
      let after := followed gap (parts.map (·.1)) ++ (last ++ closeBracket :: rest)
      obtain ⟨opens, reads⟩ := items part (by simp)
      obtain ⟨b, t, starts, notClosing, skips⟩ := opens.skipBlank gapBlank after
      have goes : nextItem false (comma :: (gap ++ (part.1 ++ after))) =
          .ok (true, part.1 ++ after) := by
        rw [nextItem_comma (skipBlank_of_not_isBlank rfl _) skips notClosing, starts]
        rfl
      have readsNext := reads after
        (endsNumber_followed lastBlank (endsNumber_closeBracket rest) _)
      have enoughAfter : parts.length < fuel := Nat.lt_of_succ_lt_succ enough
      have goesOn := ih (fun other member => items other (by simp [member])) enoughAfter
        (part.2 :: done)
      have split : followed gap ((part :: parts).map (·.1)) ++ (last ++ closeBracket :: rest) =
          comma :: (gap ++ (part.1 ++ after)) := by
        simp [followed, after]
      rw [split]
      simp only [itemsFrom, goes, readsNext]
      rw [goesOn]
      simp

/-- A list is read from its parts. -/
theorem items_joined {parts : List (Bytes × α)}
    (items : ∀ part ∈ parts, ReadsItem item part.1 part.2) (rest : Bytes) :
    Document.items item
      (gap ++ (joined (comma :: gap) (parts.map (·.1)) ++ (last ++ closeBracket :: rest))) =
      .ok (parts.map (·.2), closeBracket :: rest) := by
  cases parts with
  | nil =>
    have blank : IsBlank (gap ++ last) := fun b inside =>
      (List.mem_append.mp inside).elim (gapBlank b) (lastBlank b)
    have ends : nextItem true (gap ++ (last ++ closeBracket :: rest)) =
        .ok (false, closeBracket :: rest) := by
      rw [← List.append_assoc]
      exact nextItem_end (blank.skipBlank rfl rest)
    simp only [List.map_nil, joined, List.nil_append, Document.items, itemsFrom, ends,
      List.reverse_nil]
  | cons part parts =>
    let after := followed gap (parts.map (·.1)) ++ (last ++ closeBracket :: rest)
    obtain ⟨opens, reads⟩ := items part (by simp)
    obtain ⟨b, t, starts, notClosing, skips⟩ := opens.skipBlank gapBlank after
    have goes : nextItem true (gap ++ (part.1 ++ after)) = .ok (true, part.1 ++ after) := by
      rw [nextItem_first skips notClosing, starts]
      rfl
    have readsNext := reads after (endsNumber_followed lastBlank (endsNumber_closeBracket rest) _)
    have enough : parts.length < (gap ++ (part.1 ++ after)).length := by
      have some := length_le_followed gap (parts.map (·.1))
      simp only [after, List.length_append, List.length_cons, List.length_map] at some ⊢
      omega
    have goesOn := itemsFrom_followed gapBlank lastBlank
      (fun other member => items other (by simp [member])) enough [part.2] rest
    have split : gap ++ (joined (comma :: gap) ((part :: parts).map (·.1)) ++
        (last ++ closeBracket :: rest)) = gap ++ (part.1 ++ after) := by
      rw [List.map_cons, joined_eq_followed, List.append_assoc]
    rw [split]
    simp only [Document.items, itemsFrom, goes, readsNext]
    exact goesOn

end Items

section Members

variable {member : α → String → Bytes → Scan α} {gap last : Bytes} (gapBlank : IsBlank gap)
  (lastBlank : IsBlank last)

/-- A member with what is written behind its name. -/
def namedPart (part : String × Bytes) : Bytes := textLiteral part.1 ++ colon :: part.2

/-- Members are read one after the other, each into what those before have left. -/
inductive ReadsMembers (member : α → String → Bytes → Scan α) :
    α → List (String × Bytes) → α → Prop where
  | none (done : α) : ReadsMembers member done [] done
  | more {done next final : α} {name : String} {part : Bytes} {parts : List (String × Bytes)}
    (reads : ∀ rest, EndsNumber rest →
      member done name (colon :: (part ++ rest)) = .ok (next, rest))
    (others : ReadsMembers member next parts final) :
    ReadsMembers member done ((name, part) :: parts) final

theorem ReadsMembers.append {start between final : α} {parts others : List (String × Bytes)}
    (first : ReadsMembers member start parts between)
    (second : ReadsMembers member between others final) :
    ReadsMembers member start (parts ++ others) final := by
  induction first with
  | none => exact second
  | more reads _ ih => exact .more reads (ih second)

include gapBlank lastBlank

theorem membersFrom_followed {done final : α} {parts : List (String × Bytes)}
    (members : ReadsMembers member done parts final) {fuel : Nat} (enough : parts.length < fuel)
    (rest : Bytes) :
    membersFrom member fuel false done
      (followed gap (parts.map namedPart) ++ (last ++ closeBrace :: rest)) =
      .ok (final, closeBrace :: rest) := by
  induction members generalizing fuel with
  | none done =>
    cases fuel with
    | zero => omega
    | succ fuel =>
      have ends : nextName false (last ++ closeBrace :: rest) = .ok (none, closeBrace :: rest) :=
        nextName_end (lastBlank.skipBlank rfl rest)
      simp only [followed, List.map_nil, List.flatMap_nil, List.nil_append, membersFrom, ends]
  | @more done next final name part parts reads others ih =>
    cases fuel with
    | zero => omega
    | succ fuel =>
      let after := followed gap (parts.map namedPart) ++ (last ++ closeBrace :: rest)
      obtain ⟨t, written, named⟩ := textBody_name name (colon :: (part ++ after))
      have goes : nextName false (comma :: (gap ++ quote :: t)) =
          .ok (some name, colon :: (part ++ after)) :=
        nextName_comma (skipBlank_of_not_isBlank rfl _) (gapBlank.skipBlank rfl _) named
      have readsNext := reads after (endsNumber_followed lastBlank (endsNumber_closeBrace rest) _)
      have goesOn := ih (Nat.lt_of_succ_lt_succ enough)
      have split : followed gap (((name, part) :: parts).map namedPart) ++
          (last ++ closeBrace :: rest) = comma :: (gap ++ quote :: t) := by
        rw [← written]
        simp [followed, namedPart, after]
      rw [split]
      simp only [membersFrom, goes, readsNext]
      exact goesOn

/-- An object is read from its members. -/
theorem members_joined {start final : α} {parts : List (String × Bytes)}
    (members : ReadsMembers member start parts final) (rest : Bytes) :
    Document.members member start
      (gap ++ (joined (comma :: gap) (parts.map namedPart) ++ (last ++ closeBrace :: rest))) =
      .ok (final, closeBrace :: rest) := by
  cases members with
  | none =>
    have blank : IsBlank (gap ++ last) := fun b inside =>
      (List.mem_append.mp inside).elim (gapBlank b) (lastBlank b)
    have ends : nextName true (gap ++ (last ++ closeBrace :: rest)) =
        .ok (none, closeBrace :: rest) := by
      rw [← List.append_assoc]
      exact nextName_end (blank.skipBlank rfl rest)
    simp only [List.map_nil, joined, List.nil_append, Document.members, membersFrom, ends]
  | @more _ next _ name part parts reads others =>
    let after := followed gap (parts.map namedPart) ++ (last ++ closeBrace :: rest)
    obtain ⟨t, written, named⟩ := textBody_name name (colon :: (part ++ after))
    have goes : nextName true (gap ++ quote :: t) = .ok (some name, colon :: (part ++ after)) :=
      nextName_first (gapBlank.skipBlank rfl _) named
    have readsNext := reads after (endsNumber_followed lastBlank (endsNumber_closeBrace rest) _)
    have split : gap ++ (joined (comma :: gap) (((name, part) :: parts).map namedPart) ++
        (last ++ closeBrace :: rest)) = gap ++ quote :: t := by
      rw [← written, List.map_cons, joined_eq_followed]
      simp [namedPart, after]
    have enough : parts.length < (gap ++ quote :: t).length := by
      have some := length_le_followed gap (parts.map namedPart)
      have length := congrArg List.length written
      simp only [after, List.length_append, List.length_cons, List.length_map] at some length ⊢
      omega
    have goesOn := membersFrom_followed gapBlank lastBlank others enough rest
    rw [split]
    simp only [Document.members, membersFrom, goes, readsNext]
    exact goesOn

end Members

end FrameCourier.Document
