import FrameCourier.Document.Reader
import FrameCourier.Proofs.Traversal
import Mathlib.Data.List.TakeWhile

/-!
# Reading is local

A scan that succeeds has passed over a part of its input and has looked at no more than one
byte behind it.  In front of every other rest that fits, the part that was passed over is read
as the same value.  What fits is a rest with the same first byte; a number also fits before
everything that does not go on with it, and a text, a list or an object before everything.

Here are the notions and the lemmas on blanks, literals and texts.
-/

namespace FrameCourier.Document

open Ascii

variable {α β : Type}

/-! ## What fits -/

/-- A rest that starts like the one that was left. -/
def SameHead (rest other : Bytes) : Prop := other.head? = rest.head?

/-- A rest that does not go on with digits. -/
def EndsDigits (rest : Bytes) : Prop := ∀ b, rest.head? = some b → isDigit b = false

/-- A rest that does not go on with a number. -/
def EndsNumber (rest : Bytes) : Prop :=
  ∀ b, rest.head? = some b → isDigit b = false ∧ b ≠ point ∧ b ≠ lowerE ∧ b ≠ upperE

/-- A rest before which a number is read as it was. -/
def FitsNumber (rest other : Bytes) : Prop := SameHead rest other ∨ EndsNumber other

/-- The bytes that a value can end with. -/
def isClosing (b : UInt8) : Bool :=
  isDigit b || b == quote || b == closeBracket || b == closeBrace || b == lowerE || b == 0x6C

/-- Bytes whose last one can end a value. -/
def EndsClosed (taken : Bytes) : Prop := ∃ b, taken.getLast? = some b ∧ isClosing b = true

theorem SameHead.append (taken : Bytes) {rest other : Bytes} (same : SameHead rest other) :
    SameHead (taken ++ rest) (taken ++ other) := by
  cases taken with
  | nil => exact same
  | cons b taken => rfl

theorem SameHead.exists_cons {b : UInt8} {s other : Bytes} (same : SameHead (b :: s) other) :
    ∃ t, other = b :: t := by
  cases other with
  | nil => cases same
  | cons c t =>
    cases same
    exact ⟨t, rfl⟩

theorem sameHead_append {taken : Bytes} (some : taken ≠ []) (rest other : Bytes) :
    SameHead (taken ++ rest) (taken ++ other) := by
  cases taken with
  | nil => exact absurd rfl some
  | cons b taken => rfl

theorem FitsNumber.append (taken : Bytes) {rest other : Bytes} (fits : FitsNumber rest other) :
    FitsNumber (taken ++ rest) (taken ++ other) := by
  cases taken with
  | nil => exact fits
  | cons b taken => exact .inl rfl

theorem FitsNumber.endsDigits {rest other : Bytes} (fits : FitsNumber rest other)
    (ends : EndsDigits rest) : EndsDigits other := by
  intro b head
  cases fits with
  | inl same => exact ends b (same ▸ head)
  | inr numberEnds => exact (numberEnds b head).1

/-- What fits does not bring a byte that would go on with the number. -/
theorem FitsNumber.ne_cons {rest other : Bytes} (fits : FitsNumber rest other) {b : UInt8}
    (goesOn : b = point ∨ b = lowerE ∨ b = upperE) (absent : ∀ t, rest ≠ b :: t) (t : Bytes) :
    other ≠ b :: t := by
  rintro rfl
  cases fits with
  | inl same =>
    cases rest with
    | nil => cases same
    | cons c s =>
      cases same
      exact absent s rfl
  | inr ends =>
    obtain ⟨-, notPoint, notLower, notUpper⟩ := ends b rfl
    rcases goesOn with rfl | rfl | rfl
    · exact notPoint rfl
    · exact notLower rfl
    · exact notUpper rfl

theorem EndsClosed.append {taken : Bytes} (closed : EndsClosed taken) (before : Bytes) :
    EndsClosed (before ++ taken) := by
  obtain ⟨b, last, closing⟩ := closed
  exact ⟨b, by rw [List.getLast?_append, last]; rfl, closing⟩

theorem EndsClosed.ne_nil {taken : Bytes} (closed : EndsClosed taken) : taken ≠ [] := by
  rintro rfl
  obtain ⟨b, last, -⟩ := closed
  cases last

theorem endsClosed_digits {digits : Bytes} (some : digits ≠ [])
    (areDigits : ∀ b ∈ digits, isDigit b = true) : EndsClosed digits := by
  refine ⟨digits.getLast some, List.getLast?_eq_some_getLast some, ?_⟩
  simp [isClosing, areDigits _ (List.getLast_mem some)]

/-! ## Blanks and literals -/

theorem skipBlank_append {blanks : Bytes} (blank : ∀ b ∈ blanks, isBlank b = true) (s : Bytes) :
    skipBlank (blanks ++ s) = skipBlank s :=
  List.dropWhile_append_of_pos blank

theorem skipBlank_of_not_isBlank {b : UInt8} (notBlank : isBlank b = false) (s : Bytes) :
    skipBlank (b :: s) = b :: s := by
  simp [skipBlank, notBlank]

theorem skipBlank_eq_nil_iff {s : Bytes} : skipBlank s = [] ↔ ∀ b ∈ s, isBlank b = true := by
  simp [skipBlank, List.dropWhile_eq_nil_iff]

/-- The blanks that are passed over stand before a byte that is none. -/
theorem exists_blanks {s t : Bytes} {b : UInt8} (found : skipBlank s = b :: t) :
    ∃ blanks, s = blanks ++ b :: t ∧ ∀ other, skipBlank (blanks ++ b :: other) = b :: other := by
  have notBlank : isBlank b = false := by
    have stops := List.head?_dropWhile_not isBlank s
    rw [show s.dropWhile isBlank = b :: t from found] at stops
    simpa using stops
  refine ⟨s.takeWhile isBlank, ?_, fun other => ?_⟩
  · rw [← found]
    exact List.takeWhile_append_dropWhile.symm
  · rw [skipBlank_append fun c member => List.mem_takeWhile_imp member,
      skipBlank_of_not_isBlank notBlank]

theorem literal_append (letters s : Bytes) : literal letters (letters ++ s) = .ok s := by
  induction letters with
  | nil => rfl
  | cons letter letters ih => simpa [literal] using ih

theorem eq_append_of_literal {letters s rest : Bytes} (success : literal letters s = .ok rest) :
    s = letters ++ rest := by
  induction letters generalizing s with
  | nil =>
    cases success
    rfl
  | cons letter letters ih =>
    cases s with
    | nil => cases success
    | cons b s =>
      simp only [literal] at success
      split at success
      · next equal =>
        rw [equal, ih success]
        rfl
      · cases success

/-- `scan` reads `x` from a closed part of `s` and leaves `rest`, and it reads the same in front
of everything else that `fits`. -/
def ReadsLocally (scan : Bytes → Scan α) (s : Bytes) (x : α) (rest : Bytes)
    (fits : Bytes → Prop) : Prop :=
  ∃ taken, s = taken ++ rest ∧ EndsClosed taken ∧
    ∀ other, fits other → scan (taken ++ other) = .ok (x, other)

/-- A scan that goes on with another one after a byte. -/
theorem ReadsLocally.cons {scan next : Bytes → Scan α} {b : UInt8} {s : Bytes} {x : α}
    {rest : Bytes} {fits : Bytes → Prop} (step : ∀ t, scan (b :: t) = next t)
    (after : ReadsLocally next s x rest fits) : ReadsLocally scan (b :: s) x rest fits := by
  obtain ⟨taken, rfl, closed, reads⟩ := after
  exact ⟨b :: taken, rfl, closed.append [b], fun other fit => (step _).trans (reads other fit)⟩

/-! ## Texts -/

theorem textBytes_local {state : TextState} {done s found rest : Bytes}
    (success : textBytes state done s = .ok (found, rest)) :
    ReadsLocally (textBytes state done) s found rest fun _ => True := by
  fun_induction textBytes state done s with
  | case2 done s =>
    -- The closing quote.
    cases success
    exact ⟨[quote], rfl, ⟨quote, rfl, rfl⟩, fun other _ => rfl⟩
  | case3 done s notQuote ih => exact .cons (fun t => rfl) (ih success)
  | case5 done b s notQuote notBackslash notControl ih =>
    exact .cons (fun t => by simp [textBytes, *]) (ih success)
  | case6 done s ih => exact .cons (fun t => rfl) (ih success)
  | case7 done b s notMark c simple ih => exact .cons (fun t => by simp [textBytes, *]) (ih success)
  | case9 lead count value done b s value' more ih =>
    exact .cons (fun t => by simp [textBytes, value', more]) (ih success)
  | case12 count value done b s value' full v known notTrailing leading ih =>
    exact .cons (fun t => by simp [textBytes, value', *]) (ih success)
  | case13 count value done b s value' full v known notTrailing notLeading ih =>
    exact .cons (fun t => by simp [textBytes, value', *]) (ih success)
  | case14 count value done b s value' full v lead known trailing ih =>
    exact .cons (fun t => by simp [textBytes, value', *]) (ih success)
  | case16 lead done s ih => exact .cons (fun t => rfl) (ih success)
  | case18 lead done s ih => exact .cons (fun t => rfl) (ih success)
  | _ => cases success

theorem textBody_local {s rest : Bytes} {decoded : String}
    (success : textBody s = .ok (decoded, rest)) :
    ReadsLocally textBody s decoded rest fun _ => True := by
  unfold textBody at success
  split at success
  · cases success
  · next found left scanned =>
    split at success
    · next text known =>
      cases success
      obtain ⟨taken, rfl, closed, reads⟩ := textBytes_local scanned
      exact ⟨taken, rfl, closed, fun other _ => by simp [textBody, reads, known]⟩
    · cases success

end FrameCourier.Document
