import FrameCourier.Proofs.Document.RoundTrip

/-!
# Complete documents

Bytes that are one complete document stay one when blanks are put behind them or taken away,
and stop being one before anything else.  A document in braces is complete at its last byte and
not earlier.
-/

namespace FrameCourier.Document

open Ascii

/-- Complete documents are values with nothing but blanks behind them. -/
theorem read?_eq_some_iff {s : Bytes} {document : Document} :
    read? s = some document ↔
      ∃ rest, value depthLimit s = .ok (document, rest) ∧ IsBlank rest := by
  unfold read?
  constructor
  · intro complete
    split at complete
    · cases complete
    · next found rest read =>
      split at complete
      · next empty =>
        cases complete
        exact ⟨rest, read, skipBlank_eq_nil_iff.mp (List.isEmpty_iff.mp empty)⟩
      · cases complete
  · rintro ⟨rest, read, blank⟩
    rw [read]
    simp [skipBlank_eq_nil_iff.mpr blank]

/-- A value is a complete document if nothing but blanks follows it. -/
theorem read?_of_value {s rest : Bytes} {document : Document}
    (read : value depthLimit s = .ok (document, rest)) :
    read? s = if IsBlank rest then some document else none := by
  split
  · next blank => exact read?_eq_some_iff.mpr ⟨rest, read, blank⟩
  · next notBlank =>
    cases complete : read? s with
    | none => rfl
    | some other =>
      obtain ⟨left, readAgain, blank⟩ := read?_eq_some_iff.mp complete
      rw [read] at readAgain
      cases readAgain
      exact absurd blank notBlank

/-! ## Blanks behind a document -/

/-- What ends a value is no blank. -/
theorem not_isBlank_of_isClosing {b : UInt8} (closing : isClosing b = true) :
    isBlank b = false := by
  rw [Bool.eq_false_iff]
  intro blank
  simp only [isBlank, Bool.or_eq_true, beq_iff_eq] at blank
  rcases blank with ((rfl | rfl) | rfl) | rfl <;> exact absurd closing (by decide)

theorem EndsClosed.getLast {before : Bytes} {b : UInt8} (closed : EndsClosed (before ++ [b])) :
    isClosing b = true := by
  obtain ⟨c, last, closing⟩ := closed
  rw [List.getLast?_append] at last
  cases last
  exact closing

/-- A blank at the end does not complete a document. -/
theorem read?_of_read?_append_blank {s : Bytes} {b : UInt8} {document : Document}
    (blank : isBlank b = true) (complete : read? (s ++ [b]) = some document) :
    read? s = some document := by
  obtain ⟨rest, read, restBlank⟩ := read?_eq_some_iff.mp complete
  obtain ⟨taken, parts, closed, reads⟩ := value_local read
  rcases List.eq_nil_or_concat rest with rfl | ⟨left, last, rfl⟩
  · rw [List.append_nil] at parts
    rw [← parts] at closed
    have notBlank := not_isBlank_of_isClosing closed.getLast
    rw [blank] at notBlank
    cases notBlank
  · rw [List.concat_eq_append, ← List.append_assoc] at parts
    obtain ⟨rfl, same⟩ := List.append_inj' parts rfl
    have fits : Fits document (left.concat last) left := by
      cases left with
      | nil => exact .inr (document.follows_of_endsNumber fun b head => by cases head)
      | cons c left => exact .inl rfl
    refine read?_eq_some_iff.mpr ⟨left, reads left fits, fun c member => restBlank c ?_⟩
    simp [member]

/-- A document ends with a byte that closes it, or with a blank. -/
theorem read?_eq_none_of_last {s : Bytes} {b : UInt8} (notBlank : isBlank b = false)
    (notClosing : isClosing b = false) : read? (s ++ [b]) = none := by
  cases complete : read? (s ++ [b]) with
  | none => rfl
  | some document =>
    obtain ⟨rest, read, restBlank⟩ := read?_eq_some_iff.mp complete
    obtain ⟨taken, parts, closed, -⟩ := value_local read
    rcases List.eq_nil_or_concat rest with rfl | ⟨left, last, rfl⟩
    · rw [List.append_nil] at parts
      rw [← parts] at closed
      rw [closed.getLast] at notClosing
      cases notClosing
    · rw [List.concat_eq_append, ← List.append_assoc] at parts
      obtain ⟨-, same⟩ := List.append_inj' parts rfl
      cases same
      rw [restBlank b (by simp)] at notBlank
      cases notBlank

/-! ## Documents in braces -/

/-- What starts with a brace is an object. -/
theorem exists_members_of_value_openBrace {s rest : Bytes} {document : Document}
    (read : value depthLimit (openBrace :: s) = .ok (document, rest)) :
    ∃ members, document = .object members := by
  have body : objectBody (value 126) s = .ok (document, rest) := read
  obtain ⟨⟨done, left⟩, -, success⟩ := eq_ok_of_bind_eq_ok body
  obtain ⟨after, -, success⟩ := eq_ok_of_bind_eq_ok success
  cases success
  exact ⟨done.reverse, rfl⟩

/-- A document in braces is not complete before its last byte. -/
theorem read?_eq_none_of_append_eq {s before more : Bytes} {document : Document}
    (whole : value depthLimit (openBrace :: s) = .ok (document, []))
    (parts : before ++ more = openBrace :: s) (unfinished : more ≠ []) : read? before = none := by
  cases complete : read? before with
  | none => rfl
  | some found =>
    obtain ⟨rest, read, -⟩ := read?_eq_some_iff.mp complete
    obtain ⟨taken, rfl, closed, reads⟩ := value_local read
    obtain ⟨b, others, rfl⟩ := List.exists_cons_of_ne_nil closed.ne_nil
    have isBrace : b = openBrace := by
      simp only [List.cons_append, List.cons.injEq] at parts
      exact parts.1
    subst isBrace
    obtain ⟨members, rfl⟩ := exists_members_of_value_openBrace read
    have readWhole := reads (rest ++ more) (.inr trivial)
    rw [← List.append_assoc, parts, whole] at readWhole
    simp only [Except.ok.injEq, Prod.mk.injEq] at readWhole
    exact absurd (List.append_eq_nil_iff.mp readWhole.2.symm).2 unfinished

end FrameCourier.Document
