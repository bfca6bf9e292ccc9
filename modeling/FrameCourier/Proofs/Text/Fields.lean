import Mathlib.Data.List.Basic

/-!
# Fields

A line is in fields in one way: commas are between them, and none is in them.  What is written
behind a line, unless it is a comma, belongs to its last field.
-/

namespace FrameCourier.Text

/-- The fields of a line. -/
inductive IsFields : List Char → List (List Char) → Prop where
  | last {field : List Char} (noComma : ',' ∉ field) : IsFields field [field]
  | field {field rest : List Char} {fields : List (List Char)} (noComma : ',' ∉ field)
    (later : IsFields rest fields) : IsFields (field ++ ',' :: rest) (field :: fields)

variable {line : List Char} {fields : List (List Char)}

/-- Every line is in fields. -/
theorem exists_isFields (line : List Char) : ∃ fields, IsFields line fields := by
  by_cases commas : ',' ∈ line
  · obtain ⟨field, rest, parts, noComma⟩ := List.eq_append_cons_of_mem commas
    obtain ⟨fields, later⟩ := exists_isFields rest
    rw [parts]
    exact ⟨field :: fields, .field noComma later⟩
  · exact ⟨[line], .last commas⟩
termination_by line.length
decreasing_by
  rw [parts, List.length_append, List.length_cons]
  omega

theorem IsFields.splitOn_eq (isFields : IsFields line fields) : line.splitOn ',' = fields := by
  induction isFields with
  | last noComma => exact List.splitOn_eq_singleton noComma
  | field noComma _ ih => rw [List.splitOn_append_cons_self_of_not_mem noComma, ih]

theorem isFields_iff : IsFields line fields ↔ line.splitOn ',' = fields := by
  constructor
  · exact IsFields.splitOn_eq
  · intro splits
    obtain ⟨fields', isFields⟩ := exists_isFields line
    rw [← splits, isFields.splitOn_eq]
    exact isFields

/-- A line of several fields has commas. -/
theorem IsFields.comma_mem {first second : List Char}
    (isFields : IsFields line (first :: second :: fields)) : ',' ∈ line := by
  cases isFields with
  | field => exact List.mem_append_right _ List.mem_cons_self

/-- The last character of a line is the one of its last field. -/
theorem IsFields.exists_of_concat {c : Char} (isFields : IsFields (line ++ [c]) fields)
    (noComma : c ≠ ',') :
    ∃ before last, fields = before ++ [last ++ [c]] ∧ IsFields line (before ++ [last]) := by
  generalize whole : line ++ [c] = text at isFields
  induction isFields generalizing line with
  | last none =>
    rw [← whole] at none ⊢
    exact ⟨[], line, rfl, .last fun inside => none (List.mem_append_left _ inside)⟩
  | @field field rest fields none later ih =>
    rcases List.eq_nil_or_concat' rest with nothing | ⟨front, d, parts⟩
    · rw [nothing] at whole
      have comma := (List.append_inj' whole rfl).2
      exact absurd (List.singleton_inj.mp comma) noComma
    · rw [parts, ← List.cons_append, ← List.append_assoc] at whole
      obtain ⟨before', same⟩ := List.append_inj' whole rfl
      rw [← List.singleton_inj.mp same] at parts
      obtain ⟨before, last, split, front'⟩ := ih parts.symm
      rw [before', split]
      exact ⟨field :: before, last, rfl, .field none front'⟩

end FrameCourier.Text
