import FrameCourier.Proofs.Document.Locality.Number

/-!
# Values are read locally

Items and members are read until a closing bracket or brace, which is looked at first and
passed over after.  So a list or an object does not depend on what follows it at all.
-/

namespace FrameCourier.Document

open Ascii

variable {α : Type}

/-! ## Going to the next item -/

theorem nextItem_end {first : Bool} {s t : Bytes} (found : skipBlank s = closeBracket :: t) :
    nextItem first s = .ok (false, closeBracket :: t) := by
  unfold nextItem
  rw [found]
  rfl

theorem nextItem_first {s t : Bytes} {b : UInt8} (found : skipBlank s = b :: t)
    (notClosing : b ≠ closeBracket) : nextItem true s = .ok (true, b :: t) := by
  unfold nextItem
  rw [found]
  split
  · next equal => cases equal
  · next equal => exact absurd (List.cons.inj equal).1 notClosing
  · next equal =>
    cases equal
    rfl

theorem nextItem_comma {s t u : Bytes} {b : UInt8} (found : skipBlank s = comma :: t)
    (after : skipBlank t = b :: u) (notClosing : b ≠ closeBracket) :
    nextItem false s = .ok (true, b :: u) := by
  unfold nextItem
  rw [found]
  split
  · next equal => cases equal
  · next equal => exact absurd (List.cons.inj equal).1 (by decide)
  · next equal =>
    cases equal
    rw [if_neg Bool.false_ne_true, if_pos rfl, after]
    split
    · next equal => cases equal
    · next equal => exact absurd (List.cons.inj equal).1 notClosing
    · rfl

/-- There is a next item in one of three ways. -/
theorem nextItem_cases {first more : Bool} {s rest : Bytes}
    (success : nextItem first s = .ok (more, rest)) :
    (more = false ∧ ∃ t, skipBlank s = closeBracket :: t ∧ rest = closeBracket :: t) ∨
    (more = true ∧ first = true ∧
      ∃ b t, skipBlank s = b :: t ∧ b ≠ closeBracket ∧ rest = b :: t) ∨
    (more = true ∧ first = false ∧
      ∃ t b u, skipBlank s = comma :: t ∧ skipBlank t = b :: u ∧ b ≠ closeBracket ∧
        rest = b :: u) := by
  unfold nextItem at success
  split at success
  · cases success
  · next t found =>
    cases success
    exact .inl ⟨rfl, t, found, rfl⟩
  · next b t notClosing found =>
    split at success
    · next isFirst =>
      cases success
      exact .inr (.inl ⟨rfl, isFirst, b, t, found, notClosing, rfl⟩)
    · next notFirst =>
      split at success
      · next isComma =>
        subst isComma
        cases after : skipBlank t with
        | nil =>
          rw [after] at success
          cases success
        | cons c u =>
          rw [after] at success
          split at success
          · cases success
          · cases success
          · next notEmpty notEnd =>
            cases success
            exact .inr (.inr ⟨rfl, by simpa using notFirst, t, c, u, found, after,
              fun equal => notEnd u (by rw [equal]; rfl), rfl⟩)
      · cases success

theorem nextItem_local {first more : Bool} {s rest : Bytes}
    (success : nextItem first s = .ok (more, rest)) :
    ∃ taken, s = taken ++ rest ∧
      ∀ other, SameHead rest other → nextItem first (taken ++ other) = .ok (more, other) := by
  rcases nextItem_cases success with
    ⟨rfl, t, found, rfl⟩ | ⟨rfl, rfl, b, t, found, notClosing, rfl⟩ |
    ⟨rfl, rfl, t, b, u, found, after, notClosing, rfl⟩
  · obtain ⟨blanks, rfl, skips⟩ := exists_blanks found
    refine ⟨blanks, rfl, fun other same => ?_⟩
    obtain ⟨u, rfl⟩ := same.exists_cons
    exact nextItem_end (skips u)
  · obtain ⟨blanks, rfl, skips⟩ := exists_blanks found
    refine ⟨blanks, rfl, fun other same => ?_⟩
    obtain ⟨u, rfl⟩ := same.exists_cons
    exact nextItem_first (skips u) notClosing
  · obtain ⟨blanks, rfl, skips⟩ := exists_blanks found
    obtain ⟨more, rfl, skipsMore⟩ := exists_blanks after
    refine ⟨blanks ++ comma :: more, by simp, fun other same => ?_⟩
    obtain ⟨v, rfl⟩ := same.exists_cons
    rw [List.append_assoc]
    exact nextItem_comma (skips _) (skipsMore v) notClosing

/-! ## Going to the next member -/

theorem nextName_end {first : Bool} {s t : Bytes} (found : skipBlank s = closeBrace :: t) :
    nextName first s = .ok (none, closeBrace :: t) := by
  unfold nextName
  rw [found]
  rfl

theorem nextName_first {s t rest : Bytes} {name : String} (found : skipBlank s = quote :: t)
    (read : textBody t = .ok (name, rest)) : nextName true s = .ok (some name, rest) := by
  unfold nextName
  rw [found]
  split
  · next equal => cases equal
  · next equal => exact absurd (List.cons.inj equal).1 (by decide)
  · next equal =>
    cases equal
    rw [if_pos rfl, if_pos rfl, read]
    rfl

theorem nextName_comma {s t u rest : Bytes} {name : String} (found : skipBlank s = comma :: t)
    (after : skipBlank t = quote :: u) (read : textBody u = .ok (name, rest)) :
    nextName false s = .ok (some name, rest) := by
  unfold nextName
  rw [found]
  split
  · next equal => cases equal
  · next equal => exact absurd (List.cons.inj equal).1 (by decide)
  · next equal =>
    cases equal
    rw [if_neg Bool.false_ne_true, if_pos rfl, after]
    split
    · next equal => cases equal
    · next equal =>
      cases equal
      rw [read]
      rfl
    · next equal => exact absurd (List.cons.inj equal).1 (by decide)
    · next notQuote _ equal =>
      cases equal
      exact absurd rfl notQuote

/-- There is a next member in one of three ways. -/
theorem nextName_cases {first : Bool} {s rest : Bytes} {found : Option String}
    (success : nextName first s = .ok (found, rest)) :
    (found = none ∧ ∃ t, skipBlank s = closeBrace :: t ∧ rest = closeBrace :: t) ∨
    (first = true ∧ ∃ name t, found = some name ∧ skipBlank s = quote :: t ∧
      textBody t = .ok (name, rest)) ∨
    (first = false ∧ ∃ name t u, found = some name ∧ skipBlank s = comma :: t ∧
      skipBlank t = quote :: u ∧ textBody u = .ok (name, rest)) := by
  unfold nextName at success
  split at success
  · cases success
  · next t skipped =>
    cases success
    exact .inl ⟨rfl, t, skipped, rfl⟩
  · next b t notClosing skipped =>
    split at success
    · next isFirst =>
      split at success
      · next isQuote =>
        subst isQuote
        obtain ⟨⟨name, left⟩, read, equal⟩ := eq_ok_of_map_eq_ok success
        cases equal
        exact .inr (.inl ⟨isFirst, name, t, rfl, skipped, read⟩)
      · cases success
    · next notFirst =>
      split at success
      · next isComma =>
        subst isComma
        split at success
        · cases success
        · next u after =>
          obtain ⟨⟨name, left⟩, read, equal⟩ := eq_ok_of_map_eq_ok success
          cases equal
          exact .inr (.inr ⟨by simpa using notFirst, name, t, u, rfl, skipped, after, read⟩)
        · cases success
        · cases success
      · cases success

/-- A name ends with its closing quote, and the end of an object is only looked at. -/
theorem nextName_local {first : Bool} {s rest : Bytes} {found : Option String}
    (success : nextName first s = .ok (found, rest)) :
    ∃ taken, s = taken ++ rest ∧ (found.isSome → taken ≠ []) ∧
      ∀ other, SameHead rest other → nextName first (taken ++ other) = .ok (found, other) := by
  rcases nextName_cases success with
    ⟨rfl, t, skipped, rfl⟩ | ⟨rfl, name, t, rfl, skipped, read⟩ |
    ⟨rfl, name, t, u, rfl, skipped, after, read⟩
  · obtain ⟨blanks, rfl, skips⟩ := exists_blanks skipped
    refine ⟨blanks, rfl, by simp, fun other same => ?_⟩
    obtain ⟨u, rfl⟩ := same.exists_cons
    exact nextName_end (skips u)
  · obtain ⟨blanks, rfl, skips⟩ := exists_blanks skipped
    obtain ⟨taken, rfl, -, reads⟩ := textBody_local read
    refine ⟨blanks ++ quote :: taken, by simp, by simp, fun other same => ?_⟩
    rw [List.append_assoc]
    exact nextName_first (skips _) (reads other trivial)
  · obtain ⟨blanks, rfl, skips⟩ := exists_blanks skipped
    obtain ⟨more, rfl, skipsMore⟩ := exists_blanks after
    obtain ⟨taken, rfl, -, reads⟩ := textBody_local read
    refine ⟨blanks ++ comma :: (more ++ quote :: taken), by simp, by simp, fun other same => ?_⟩
    rw [List.append_assoc, List.cons_append, List.append_assoc]
    exact nextName_comma (skips _) (skipsMore _) (reads other trivial)

/-! ## The bytes between the parts -/

/-- A scan that passes over one byte behind blanks does so before every rest. -/
theorem exists_passed {scan : Bytes → Except Stop Bytes} {b : UInt8}
    (passes : ∀ s t, skipBlank s = b :: t → scan s = .ok t) {s rest : Bytes}
    (found : skipBlank s = b :: rest) :
    ∃ blanks, s = (blanks ++ [b]) ++ rest ∧
      ∀ other, scan ((blanks ++ [b]) ++ other) = .ok other := by
  obtain ⟨blanks, rfl, skips⟩ := exists_blanks found
  refine ⟨blanks, by simp, fun other => passes _ _ ?_⟩
  rw [List.append_assoc]
  exact skips other

theorem nameColon_of_skipBlank {s t : Bytes} (found : skipBlank s = colon :: t) :
    nameColon s = .ok t := by
  unfold nameColon
  rw [found]
  rfl

theorem nameColon_local {s rest : Bytes} (success : nameColon s = .ok rest) :
    ∃ taken, s = taken ++ rest ∧ ∀ other, nameColon (taken ++ other) = .ok other := by
  unfold nameColon at success
  split at success
  · cases success
  · next t found =>
    cases success
    obtain ⟨blanks, parts, passes⟩ := exists_passed (fun _ _ => nameColon_of_skipBlank) found
    exact ⟨blanks ++ [colon], parts, passes⟩
  · cases success

theorem listEnd_of_skipBlank {s t : Bytes} (found : skipBlank s = closeBracket :: t) :
    listEnd s = .ok t := by
  unfold listEnd
  rw [found]
  rfl

theorem listEnd_local {s rest : Bytes} (success : listEnd s = .ok rest) :
    ∃ taken, s = taken ++ rest ∧ EndsClosed taken ∧
      ∀ other, listEnd (taken ++ other) = .ok other := by
  unfold listEnd at success
  split at success
  · cases success
  · next t found =>
    cases success
    obtain ⟨blanks, parts, passes⟩ := exists_passed (fun _ _ => listEnd_of_skipBlank) found
    exact ⟨blanks ++ [closeBracket], parts, ⟨closeBracket, by simp, rfl⟩, passes⟩
  · split at success <;> cases success
  · cases success

theorem objectEnd_of_skipBlank {s t : Bytes} (found : skipBlank s = closeBrace :: t) :
    objectEnd s = .ok t := by
  unfold objectEnd
  rw [found]
  rfl

theorem objectEnd_local {s rest : Bytes} (success : objectEnd s = .ok rest) :
    ∃ taken, s = taken ++ rest ∧ EndsClosed taken ∧
      ∀ other, objectEnd (taken ++ other) = .ok other := by
  unfold objectEnd at success
  split at success
  · cases success
  · next t found =>
    cases success
    obtain ⟨blanks, parts, passes⟩ := exists_passed (fun _ _ => objectEnd_of_skipBlank) found
    exact ⟨blanks ++ [closeBrace], parts, ⟨closeBrace, by simp, rfl⟩, passes⟩
  · cases success
  · cases success

/-! ## Loops over items and members -/

/-- The loop reads the same items if its bound is large enough: every turn but the last passes
over a byte at least. -/
theorem itemsFrom_local {item : Bytes → Scan α}
    (itemLocal : ∀ s x rest, item s = .ok (x, rest) →
      ReadsLocally item s x rest (SameHead rest))
    {fuel : Nat} {first : Bool} {done xs : List α} {s rest : Bytes}
    (success : itemsFrom item fuel first done s = .ok (xs, rest)) :
    ∃ taken, s = taken ++ rest ∧
      ∀ bound other, taken.length < bound → SameHead rest other →
        itemsFrom item bound first done (taken ++ other) = .ok (xs, other) := by
  induction fuel generalizing first done s with
  | zero => cases success
  | succ fuel ih =>
    simp only [itemsFrom] at success
    split at success
    · cases success
    · next left next =>
      cases success
      obtain ⟨taken, rfl, reads⟩ := nextItem_local next
      refine ⟨taken, rfl, fun bound other enough same => ?_⟩
      cases bound with
      | zero => omega
      | succ bound => simp only [itemsFrom, reads other same]
    · next left next =>
      split at success
      · cases success
      · next x after read =>
        obtain ⟨before, rfl, goes⟩ := nextItem_local next
        obtain ⟨taken, rfl, closed, reads⟩ := itemLocal _ _ _ read
        obtain ⟨others, rfl, goesOn⟩ := ih success
        refine ⟨before ++ (taken ++ others), by simp, fun bound other enough same => ?_⟩
        have some : 0 < taken.length := List.length_pos_iff.mpr closed.ne_nil
        have sameAfter := same.append others
        simp only [List.length_append] at enough
        cases bound with
        | zero => omega
        | succ bound =>
          have enoughAfter : others.length < bound := by omega
          simp only [itemsFrom, List.append_assoc, goes _ (sameAfter.append taken), reads _ sameAfter,
            goesOn _ other enoughAfter same]

theorem membersFrom_local {member : α → String → Bytes → Scan α}
    (memberLocal : ∀ done name s x rest, member done name s = .ok (x, rest) →
      ReadsLocally (member done name) s x rest (SameHead rest))
    {fuel : Nat} {first : Bool} {done x : α} {s rest : Bytes}
    (success : membersFrom member fuel first done s = .ok (x, rest)) :
    ∃ taken, s = taken ++ rest ∧
      ∀ bound other, taken.length < bound → SameHead rest other →
        membersFrom member bound first done (taken ++ other) = .ok (x, other) := by
  induction fuel generalizing first done s with
  | zero => cases success
  | succ fuel ih =>
    simp only [membersFrom] at success
    split at success
    · cases success
    · next left next =>
      cases success
      obtain ⟨taken, rfl, -, reads⟩ := nextName_local next
      refine ⟨taken, rfl, fun bound other enough same => ?_⟩
      cases bound with
      | zero => omega
      | succ bound => simp only [membersFrom, reads other same]
    · next name left next =>
      split at success
      · cases success
      · next y after read =>
        obtain ⟨before, rfl, -, goes⟩ := nextName_local next
        obtain ⟨taken, rfl, closed, reads⟩ := memberLocal _ _ _ _ _ read
        obtain ⟨others, rfl, goesOn⟩ := ih success
        refine ⟨before ++ (taken ++ others), by simp, fun bound other enough same => ?_⟩
        have some : 0 < taken.length := List.length_pos_iff.mpr closed.ne_nil
        have sameAfter := same.append others
        simp only [List.length_append] at enough
        cases bound with
        | zero => omega
        | succ bound =>
          have enoughAfter : others.length < bound := by omega
          simp only [membersFrom, List.append_assoc, goes _ (sameAfter.append taken),
            reads _ sameAfter, goesOn _ other enoughAfter same]

/-! ## Values -/

/-- What may follow a document: a number must not go on, and everything else has an end of its
own. -/
def Follows : Document → Bytes → Prop
  | .number _, rest => EndsNumber rest
  | _, _ => True

/-- What may stand behind a document that was read in front of `rest`. -/
def Fits (document : Document) (rest other : Bytes) : Prop :=
  SameHead rest other ∨ document.Follows other

theorem listBody_local {value : Bytes → Scan Document}
    (valueLocal : ∀ s d rest, value s = .ok (d, rest) →
      ReadsLocally value s d rest (SameHead rest))
    {s rest : Bytes} {document : Document} (success : listBody value s = .ok (document, rest)) :
    (∃ xs, document = .list xs) ∧
      ReadsLocally (listBody value) s document rest fun _ => True := by
  obtain ⟨⟨xs, left⟩, read, success⟩ := eq_ok_of_bind_eq_ok success
  obtain ⟨after, closing, success⟩ := eq_ok_of_bind_eq_ok success
  cases success
  obtain ⟨taken, rfl, reads⟩ := itemsFrom_local valueLocal read
  obtain ⟨bracket, rfl, closed, closes⟩ := listEnd_local closing
  refine ⟨⟨xs, rfl⟩, taken ++ bracket, by simp, closed.append taken, fun other _ => ?_⟩
  have readAgain : items value (taken ++ (bracket ++ other)) = .ok (xs, bracket ++ other) :=
    reads _ _ (by simp only [List.length_append]; omega) (sameHead_append closed.ne_nil _ _)
  simp only [listBody, List.append_assoc, readAgain, bind, Except.bind, closes other, pure,
    Except.pure]

theorem keptMember_local {value : Bytes → Scan Document}
    (valueLocal : ∀ s d rest, value s = .ok (d, rest) →
      ReadsLocally value s d rest (SameHead rest))
    {done x : Members} {name : String} {s rest : Bytes}
    (success : keptMember value done name s = .ok (x, rest)) :
    ReadsLocally (keptMember value done name) s x rest (SameHead rest) := by
  obtain ⟨⟨d, left⟩, read, equal⟩ := eq_ok_of_map_eq_ok success
  cases equal
  unfold namedValue at read
  split at read
  · cases read
  · next after colonRead =>
    obtain ⟨before, rfl, passes⟩ := nameColon_local colonRead
    obtain ⟨taken, rfl, closed, reads⟩ := valueLocal _ _ _ read
    refine ⟨before ++ taken, by simp, closed.append before, fun other same => ?_⟩
    simp only [keptMember, namedValue, List.append_assoc, passes, reads other same, Except.map]

theorem objectBody_local {value : Bytes → Scan Document}
    (valueLocal : ∀ s d rest, value s = .ok (d, rest) →
      ReadsLocally value s d rest (SameHead rest))
    {s rest : Bytes} {document : Document} (success : objectBody value s = .ok (document, rest)) :
    (∃ members, document = .object members) ∧
      ReadsLocally (objectBody value) s document rest fun _ => True := by
  obtain ⟨⟨done, left⟩, read, success⟩ := eq_ok_of_bind_eq_ok success
  obtain ⟨after, closing, success⟩ := eq_ok_of_bind_eq_ok success
  cases success
  have keptLocal : ∀ done name s x rest, keptMember value done name s = .ok (x, rest) →
      ReadsLocally (keptMember value done name) s x rest (SameHead rest) :=
    fun _ _ _ _ _ => keptMember_local valueLocal
  obtain ⟨taken, rfl, reads⟩ := membersFrom_local keptLocal read
  obtain ⟨brace, rfl, closed, closes⟩ := objectEnd_local closing
  refine ⟨⟨done.reverse, rfl⟩, taken ++ brace, by simp, closed.append taken, fun other _ => ?_⟩
  have readAgain := reads ((taken ++ (brace ++ other)).length + 1) (brace ++ other)
    (by simp only [List.length_append]; omega) (sameHead_append closed.ne_nil _ _)
  simp only [objectBody, members, List.append_assoc, readAgain, bind, Except.bind, closes other,
    pure, Except.pure]

/-- A word behind its first letter. -/
theorem literal_local {letters s rest : Bytes} {document found : Document} {b : UInt8}
    (closed : EndsClosed (b :: letters))
    (success : (literal letters s).map (fun s => (document, s)) = .ok (found, rest)) :
    found = document ∧ ∃ taken, s = taken ++ rest ∧ EndsClosed (b :: taken) ∧
      ∀ other, (literal letters (taken ++ other)).map (fun s => (document, s)) =
        .ok (document, other) := by
  obtain ⟨left, read, equal⟩ := eq_ok_of_map_eq_ok success
  cases equal
  refine ⟨rfl, letters, eq_append_of_literal read, closed, fun other => ?_⟩
  rw [literal_append]
  rfl

section

variable {list object : Bytes → Scan Document}
  (listLocal : ∀ s d rest, list s = .ok (d, rest) →
    (∃ xs, d = .list xs) ∧ ReadsLocally list s d rest fun _ => True)
  (objectLocal : ∀ s d rest, object s = .ok (d, rest) →
    (∃ members, d = .object members) ∧ ReadsLocally object s d rest fun _ => True)

include listLocal objectLocal

theorem valueFrom_local {b : UInt8} {s rest : Bytes} {document : Document}
    (success : valueFrom list object b s = .ok (document, rest)) :
    ∃ taken, s = taken ++ rest ∧ EndsClosed (b :: taken) ∧
      ∀ other, Fits document rest other →
        valueFrom list object b (taken ++ other) = .ok (document, other) := by
  unfold valueFrom at success
  split at success
  · next isQuote =>
    subst isQuote
    obtain ⟨⟨decoded, left⟩, read, equal⟩ := eq_ok_of_map_eq_ok success
    cases equal
    obtain ⟨taken, rfl, closed, reads⟩ := textBody_local read
    refine ⟨taken, rfl, closed.append [quote], fun other _ => ?_⟩
    rw [valueFrom, if_pos rfl, reads other trivial]
    rfl
  split at success
  · next isBracket =>
    subst isBracket
    obtain ⟨⟨xs, rfl⟩, taken, rfl, closed, reads⟩ := listLocal _ _ _ success
    exact ⟨taken, rfl, closed.append [openBracket], fun other _ => reads other trivial⟩
  split at success
  · next isBrace =>
    subst isBrace
    obtain ⟨⟨members, rfl⟩, taken, rfl, closed, reads⟩ := objectLocal _ _ _ success
    exact ⟨taken, rfl, closed.append [openBrace], fun other _ => reads other trivial⟩
  split at success
  · next notQuote notBracket notBrace isNumber =>
    obtain ⟨⟨n, left⟩, read, equal⟩ := eq_ok_of_map_eq_ok success
    cases equal
    obtain ⟨taken, parts, closed, reads⟩ := numeral_local read
    obtain ⟨c, taken, rfl⟩ := List.exists_cons_of_ne_nil closed.ne_nil
    cases parts
    refine ⟨taken, rfl, closed, fun other fit => ?_⟩
    have readAgain : numeral (b :: (taken ++ other)) = .ok (n, other) := reads other fit
    simp only [valueFrom, notQuote, notBracket, notBrace, isNumber, if_true, if_false, readAgain,
      Except.map]
  split at success
  · next isLetter =>
    subst isLetter
    obtain ⟨rfl, taken, rfl, closed, reads⟩ := literal_local (b := lowerN) ⟨0x6C, rfl, rfl⟩ success
    exact ⟨taken, rfl, closed, fun other _ => reads other⟩
  split at success
  · next isLetter =>
    subst isLetter
    obtain ⟨rfl, taken, rfl, closed, reads⟩ := literal_local (b := lowerT) ⟨lowerE, rfl, rfl⟩ success
    exact ⟨taken, rfl, closed, fun other _ => reads other⟩
  split at success
  · next isLetter =>
    subst isLetter
    obtain ⟨rfl, taken, rfl, closed, reads⟩ := literal_local (b := lowerF) ⟨lowerE, rfl, rfl⟩ success
    exact ⟨taken, rfl, closed, fun other _ => reads other⟩
  · cases success

theorem valueWith_local {s rest : Bytes} {document : Document}
    (success : valueWith list object s = .ok (document, rest)) :
    ReadsLocally (valueWith list object) s document rest (Fits document rest) := by
  unfold valueWith at success
  split at success
  · cases success
  · next b t found =>
    obtain ⟨blanks, rfl, skips⟩ := exists_blanks found
    obtain ⟨taken, rfl, closed, reads⟩ := valueFrom_local listLocal objectLocal success
    refine ⟨blanks ++ b :: taken, by simp, closed.append blanks, fun other fit => ?_⟩
    simp only [valueWith, List.append_assoc, List.cons_append, skips, reads other fit]

end

/-- A value is read locally, whatever its depth. -/
theorem value_local {depth : Nat} {s rest : Bytes} {document : Document}
    (success : value depth s = .ok (document, rest)) :
    ReadsLocally (value depth) s document rest (Fits document rest) := by
  induction depth generalizing s rest document with
  | zero =>
    have never : ∀ s d rest, halt (α := Document × Bytes) .nestedTooDeep s ≠ .ok (d, rest) :=
      fun s d rest equal => by cases equal
    exact valueWith_local (fun s d rest equal => absurd equal (never s d rest))
      (fun s d rest equal => absurd equal (never s d rest)) success
  | succ depth ih =>
    have valueLocal : ∀ s d rest, value depth s = .ok (d, rest) →
        ReadsLocally (value depth) s d rest (SameHead rest) := by
      intro s d rest read
      obtain ⟨taken, parts, closed, reads⟩ := ih read
      exact ⟨taken, parts, closed, fun other same => reads other (.inl same)⟩
    exact valueWith_local (fun _ _ _ => listBody_local valueLocal)
      (fun _ _ _ => objectBody_local valueLocal) success

end FrameCourier.Document
