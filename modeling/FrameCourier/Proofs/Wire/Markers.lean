import FrameCourier.Wire.Framing

/-!
# Where the end marker stands

The offset of the end marker is the first one at which the marker starts.  Cutting the bytes
short takes markers away and brings none, and no marker starts in bytes without a line feed.
-/

namespace FrameCourier.Wire

open Document

/-- Whether the end marker starts at an offset. -/
def MarkerAt (s : Bytes) (offset : Nat) : Prop := endMarker <+: s.drop offset

theorem length_endMarker : endMarker.length = 17 := by decide +kernel

theorem MarkerAt.bound {s : Bytes} {offset : Nat} (stands : MarkerAt s offset) :
    offset + 17 ≤ s.length := by
  have room := stands.length_le
  rw [length_endMarker, List.length_drop] at room
  omega

theorem MarkerAt.mono {s t : Bytes} (initial : s <+: t) {offset : Nat}
    (stands : MarkerAt s offset) : MarkerAt t offset := by
  obtain ⟨rest, rfl⟩ := initial
  have bound := stands.bound
  unfold MarkerAt
  rw [List.drop_append_of_le_length (by omega)]
  exact stands.trans (List.prefix_append _ _)

/-- The marker stands nowhere if it is not found. -/
theorem not_isPrefix_drop_of_offsetFrom?_eq_none {pattern s : Bytes} {start : Nat}
    (missing : offsetFrom? pattern start s = none) (n : Nat) : ¬ pattern <+: s.drop n := by
  induction s generalizing start n with
  | nil =>
    unfold offsetFrom? at missing
    split at missing
    · cases missing
    · next notEmpty =>
      rw [List.drop_nil, List.prefix_nil]
      simpa using notEmpty
  | cons b s ih =>
    unfold offsetFrom? at missing
    split at missing
    · cases missing
    · next notHere =>
      cases n with
      | zero => simpa using notHere
      | succ n => exact ih missing n

theorem markerOffset?_eq_none_iff {s : Bytes} :
    markerOffset? s = none ↔ ∀ offset, ¬ MarkerAt s offset := by
  constructor
  · exact fun missing offset => not_isPrefix_drop_of_offsetFrom?_eq_none missing offset
  · intro nowhere
    cases found : markerOffset? s with
    | none => rfl
    | some offset =>
      have stands := (isPrefixOf_drop_of_offsetFrom? found).2
      exact absurd (List.isPrefixOf_iff_prefix.mp stands) (nowhere (offset - 0))

theorem markerOffset?_eq_some_iff {s : Bytes} {offset : Nat} :
    markerOffset? s = some offset ↔ MarkerAt s offset ∧ ∀ n < offset, ¬ MarkerAt s n := by
  constructor
  · intro found
    refine ⟨List.isPrefixOf_iff_prefix.mp (isPrefixOf_drop_of_offsetFrom? found).2, ?_⟩
    intro n before stands
    have noMarker := not_isPrefixOf_drop_of_offsetFrom? found (n := n) (by omega)
    rw [List.isPrefixOf_iff_prefix.mpr stands] at noMarker
    cases noMarker
  · rintro ⟨stands, first⟩
    cases found : markerOffset? s with
    | none => exact absurd stands (markerOffset?_eq_none_iff.mp found offset)
    | some other =>
      have standsThere := List.isPrefixOf_iff_prefix.mp (isPrefixOf_drop_of_offsetFrom? found).2
      have notLess : ¬ other < offset := fun less => first other less standsThere
      have notMore : ¬ offset < other := fun less => by
        have noMarker := not_isPrefixOf_drop_of_offsetFrom? found (n := offset) (by omega)
        rw [List.isPrefixOf_iff_prefix.mpr stands] at noMarker
        cases noMarker
      congr 1
      omega

/-- The first marker of the bytes that have arrived is the first one of all. -/
theorem markerOffset?_mono {s t : Bytes} (initial : s <+: t) {offset : Nat}
    (found : markerOffset? s = some offset) : markerOffset? t = some offset := by
  obtain ⟨stands, first⟩ := markerOffset?_eq_some_iff.mp found
  refine markerOffset?_eq_some_iff.mpr ⟨stands.mono initial, fun n before standsAt => ?_⟩
  obtain ⟨rest, rfl⟩ := initial
  have bound := stands.bound
  refine first n before ?_
  unfold MarkerAt at standsAt ⊢
  rw [List.drop_append_of_le_length (by omega)] at standsAt
  refine List.prefix_of_prefix_length_le standsAt (List.prefix_append _ _) ?_
  rw [length_endMarker, List.length_drop]
  omega

/-! ## Bytes without a line feed -/

/-- A marker starts with a line feed. -/
theorem MarkerAt.exists_cons {s : Bytes} {offset : Nat} (stands : MarkerAt s offset) :
    ∃ rest, s.drop offset = Ascii.lineFeed :: rest := by
  obtain ⟨rest, whole⟩ := stands
  have starts : endMarker = Ascii.lineFeed :: endMarker.tail := by decide +kernel
  rw [starts, List.cons_append] at whole
  exact ⟨_, whole.symm⟩

theorem not_markerAt_of_lt {s : Bytes} (noLineFeed : Ascii.lineFeed ∉ s) (t : Bytes) {offset : Nat}
    (inside : offset < s.length) : ¬ MarkerAt (s ++ t) offset := by
  intro stands
  obtain ⟨rest, starts⟩ := stands.exists_cons
  rw [List.drop_append_of_le_length (Nat.le_of_lt inside), List.drop_eq_getElem_cons inside,
    List.cons_append] at starts
  exact noLineFeed ((List.cons.inj starts).1 ▸ List.getElem_mem inside)

/-- The marker is looked for behind bytes without a line feed. -/
theorem markerOffset?_append {s : Bytes} (noLineFeed : Ascii.lineFeed ∉ s) (t : Bytes) :
    markerOffset? (s ++ t) = (markerOffset? t).map (s.length + ·) := by
  have behind : ∀ n, MarkerAt (s ++ t) (s.length + n) ↔ MarkerAt t n := by
    intro n
    unfold MarkerAt
    rw [List.drop_length_add_append]
  cases found : markerOffset? t with
  | none =>
    rw [markerOffset?_eq_none_iff] at found
    refine markerOffset?_eq_none_iff.mpr fun n stands => ?_
    by_cases inside : n < s.length
    · exact not_markerAt_of_lt noLineFeed t inside stands
    · obtain ⟨m, rfl⟩ := Nat.exists_eq_add_of_le (Nat.le_of_not_lt inside)
      exact found m ((behind m).mp stands)
  | some offset =>
    obtain ⟨stands, first⟩ := markerOffset?_eq_some_iff.mp found
    refine markerOffset?_eq_some_iff.mpr ⟨(behind offset).mpr stands, fun n before standsAt => ?_⟩
    simp only at before
    by_cases inside : n < s.length
    · exact not_markerAt_of_lt noLineFeed t inside standsAt
    · obtain ⟨m, rfl⟩ := Nat.exists_eq_add_of_le (Nat.le_of_not_lt inside)
      exact first m (by omega) ((behind m).mp standsAt)

theorem markerOffset?_of_lineFeed_not_mem {s : Bytes} (noLineFeed : Ascii.lineFeed ∉ s) :
    markerOffset? s = none := by
  have found := markerOffset?_append noLineFeed []
  rw [List.append_nil] at found
  exact found

end FrameCourier.Wire
