import Mathlib.Data.List.Basic

/-!
# Lines

A text is in lines in one way.  Each line ends in a line feed, or in a carriage return and a line
feed; the last one may end with the text, but then it is not empty, and a carriage return at its
end belongs to it.
-/

namespace FrameCourier.Text

/-- The lines of a text, without what ends them. -/
inductive InLines : List Char → List (List Char) → Prop where
  | nothing : InLines [] []
  | unended {line : List Char} (noFeed : '\n' ∉ line) (some : line ≠ []) : InLines line [line]
  | feed {line rest : List Char} {lines : List (List Char)} (noFeed : '\n' ∉ line)
    (noReturn : line.getLast? ≠ some '\r') (later : InLines rest lines) :
    InLines (line ++ '\n' :: rest) (line :: lines)
  | returnFeed {line rest : List Char} {lines : List (List Char)} (noFeed : '\n' ∉ line)
    (later : InLines rest lines) : InLines (line ++ '\r' :: '\n' :: rest) (line :: lines)

/-- What ends a line: a line feed, or a carriage return and a line feed. -/
inductive IsLineEnd : List Char → Prop where
  | feed : IsLineEnd ['\n']
  | returnFeed : IsLineEnd ['\r', '\n']

variable {line ending rest : List Char} {lines : List (List Char)}

/-- What ends in a line feed is a line, but for a carriage return at its end. -/
theorem InLines.exists_cons (noFeed : '\n' ∉ line) (later : InLines rest lines) :
    ∃ front, (line = front ∨ line = front ++ ['\r']) ∧
      InLines (line ++ '\n' :: rest) (front :: lines) := by
  by_cases returns : line.getLast? = some '\r'
  · obtain ⟨front, parts⟩ := List.getLast?_eq_some_iff.mp returns
    have frontNoFeed : '\n' ∉ front := fun inside => noFeed (by simp [parts, inside])
    refine ⟨front, .inr parts, ?_⟩
    rw [parts, List.append_assoc]
    exact .returnFeed frontNoFeed later
  · exact ⟨line, .inl rfl, .feed noFeed returns later⟩

theorem InLines.exists_cons_of_isLineEnd (noFeed : '\n' ∉ line) (ended : IsLineEnd ending)
    (later : InLines rest lines) : ∃ front, (line = front ∨ line = front ++ ['\r']) ∧
      InLines (line ++ ending ++ rest) (front :: lines) := by
  rw [List.append_assoc]
  cases ended with
  | feed => exact later.exists_cons noFeed
  | returnFeed => exact ⟨line, .inl rfl, .returnFeed noFeed later⟩

/-- Every text is in lines. -/
theorem exists_inLines (text : List Char) : ∃ lines, InLines text lines := by
  by_cases feeds : '\n' ∈ text
  · obtain ⟨line, rest, parts, noFeed⟩ := List.eq_append_cons_of_mem feeds
    obtain ⟨lines, later⟩ := exists_inLines rest
    obtain ⟨front, -, whole⟩ := later.exists_cons noFeed
    rw [parts]
    exact ⟨front :: lines, whole⟩
  · cases text with
    | nil => exact ⟨[], .nothing⟩
    | cons c text => exact ⟨[c :: text], .unended feeds (List.cons_ne_nil c text)⟩
termination_by text.length
decreasing_by
  rw [parts, List.length_append, List.length_cons]
  omega

end FrameCourier.Text
