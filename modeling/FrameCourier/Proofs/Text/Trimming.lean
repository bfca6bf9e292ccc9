import FrameCourier.Text.Blank
import Mathlib.Data.List.TakeWhile

/-!
# Texts within white space

Trimming gives back what was put between white space, if that has none at its ends, and nothing
else: every text is what trimming leaves of it, between white space.
-/

namespace FrameCourier.Text

/-- Characters that are white space only. -/
def AllBlank (cs : List Char) : Prop := ∀ c ∈ cs, isBlank c = true

/-- Characters without white space at their ends. -/
structure IsTrimmed (cs : List Char) : Prop where
  first : ∀ c, cs.head? = some c → isBlank c = false
  last : ∀ c, cs.getLast? = some c → isBlank c = false

/-- A content between white space. -/
inductive IsWithinBlanks (content : List Char) : List Char → Prop where
  | of {before after : List Char} (blankBefore : AllBlank before) (blankAfter : AllBlank after)
    (trimmed : IsTrimmed content) : IsWithinBlanks content (before ++ content ++ after)

variable {cs before content after : List Char}

theorem AllBlank.append (blankBefore : AllBlank before) (blankAfter : AllBlank after) :
    AllBlank (before ++ after) :=
  List.forall_mem_append.mpr ⟨blankBefore, blankAfter⟩

theorem AllBlank.reverse (blank : AllBlank cs) : AllBlank cs.reverse :=
  fun c inside => blank c (List.mem_reverse.mp inside)

theorem IsTrimmed.reverse (trimmed : IsTrimmed cs) : IsTrimmed cs.reverse := by
  refine ⟨fun c first => trimmed.last c ?_, fun c last => trimmed.first c ?_⟩
  · rw [← first, List.head?_reverse]
  · rw [← last, List.getLast?_reverse]

/-! ## White space at the start -/

theorem trimStart_append (blank : AllBlank before) (rest : List Char) :
    trimStart (before ++ rest) = trimStart rest :=
  List.dropWhile_append_of_pos blank

theorem trimStart_eq_nil_iff : trimStart cs = [] ↔ AllBlank cs := List.dropWhile_eq_nil_iff

/-- Nothing is trimmed before a character that is no white space. -/
theorem trimStart_eq_self (first : ∀ c, cs.head? = some c → isBlank c = false) :
    trimStart cs = cs := by
  cases cs with
  | nil => rfl
  | cons c cs => exact List.dropWhile_cons_of_neg (by simp [first c rfl])

theorem isBlank_head?_trimStart {c : Char} (head : (trimStart cs).head? = some c) :
    isBlank c = false := by
  have first := List.head?_dropWhile_not isBlank cs
  rw [trimStart] at head
  rw [head] at first
  exact first

theorem exists_append_trimStart (cs : List Char) :
    ∃ before, AllBlank before ∧ cs = before ++ trimStart cs :=
  ⟨cs.takeWhile isBlank, fun _ => List.mem_takeWhile_imp, List.takeWhile_append_dropWhile.symm⟩

/-! ## White space at both ends -/

theorem trim_append (blankBefore : AllBlank before) (blankAfter : AllBlank after)
    (trimmed : IsTrimmed content) : trim (before ++ content ++ after) = content := by
  rw [trim, List.append_assoc, trimStart_append blankBefore]
  cases content with
  | nil => rw [List.nil_append, trimStart_eq_nil_iff.mpr blankAfter]; rfl
  | cons c content =>
    have start : trimStart (c :: content ++ after) = c :: content ++ after :=
      trimStart_eq_self fun d head => trimmed.first d head
    rw [start, List.reverse_append, trimStart_append blankAfter.reverse,
      trimStart_eq_self trimmed.reverse.first, List.reverse_reverse]

theorem isWithinBlanks_trim (cs : List Char) : IsWithinBlanks (trim cs) cs := by
  obtain ⟨before, blankBefore, start⟩ := exists_append_trimStart cs
  obtain ⟨behind, blankBehind, finish⟩ := exists_append_trimStart (trimStart cs).reverse
  have whole : trimStart cs = trim cs ++ behind.reverse := by
    rw [trim, ← List.reverse_append, ← finish, List.reverse_reverse]
  have trimmed : IsTrimmed (trim cs) := by
    refine ⟨fun c head => ?_, fun c last => ?_⟩
    · have start : (trimStart cs).head? = some c := by
        rw [whole, List.head?_append, head, Option.some_or]
      exact isBlank_head?_trimStart start
    · rw [trim, List.getLast?_reverse] at last
      exact isBlank_head?_trimStart last
  have parts : cs = before ++ trim cs ++ behind.reverse := by
    rw [List.append_assoc, ← whole]
    exact start
  have within := IsWithinBlanks.of blankBefore blankBehind.reverse trimmed
  rw [← parts] at within
  exact within

/-- What trimming leaves is the one content of a text between white space. -/
theorem isWithinBlanks_iff : IsWithinBlanks content cs ↔ trim cs = content := by
  constructor
  · intro ⟨blankBefore, blankAfter, trimmed⟩
    exact trim_append blankBefore blankAfter trimmed
  · intro trims
    rw [← trims]
    exact isWithinBlanks_trim cs

/-- White space behind a text leaves its content as it is. -/
theorem IsWithinBlanks.append (within : IsWithinBlanks content cs) (blank : AllBlank after) :
    IsWithinBlanks content (cs ++ after) := by
  obtain ⟨blankBefore, blankBehind, trimmed⟩ := within
  rw [List.append_assoc]
  exact .of blankBefore (blankBehind.append blank) trimmed

theorem trim_append_of_allBlank (blank : AllBlank after) : trim (cs ++ after) = trim cs :=
  isWithinBlanks_iff.mp ((isWithinBlanks_trim cs).append blank)

/-- Nothing is left exactly of white space. -/
theorem trim_eq_nil_iff : trim cs = [] ↔ AllBlank cs := by
  rw [← isWithinBlanks_iff]
  constructor
  · intro ⟨blankBefore, blankAfter, _⟩
    rw [List.append_nil]
    exact blankBefore.append blankAfter
  · intro blank
    have nothing : AllBlank [] := List.forall_mem_nil _
    have within : IsWithinBlanks [] (cs ++ [] ++ []) := by
      refine .of blank nothing ⟨?_, ?_⟩
      · intro c head
        cases head
      · intro c last
        cases last
    rwa [List.append_nil, List.append_nil] at within

end FrameCourier.Text
