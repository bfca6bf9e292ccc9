import FrameCourier.Proofs.Document.Locality.Value

/-!
# Deeper readers read the same

A value that is read within a depth is read as the same value within every greater one.
-/

namespace FrameCourier.Document

open Ascii

variable {α : Type}

/-- What one scan takes, the other one takes alike. -/
def TakesOver (scan other : Bytes → Scan α) : Prop :=
  ∀ s result, scan s = .ok result → other s = .ok result

theorem itemsFrom_takesOver {item other : Bytes → Scan α} (takesOver : TakesOver item other)
    {fuel : Nat} {first : Bool} {done : List α} {s : Bytes} {result : List α × Bytes}
    (success : itemsFrom item fuel first done s = .ok result) :
    itemsFrom other fuel first done s = .ok result := by
  induction fuel generalizing first done s with
  | zero => cases success
  | succ fuel ih =>
    simp only [itemsFrom] at success ⊢
    split at success
    · cases success
    · exact success
    · split at success
      · cases success
      · next read =>
        simp only [takesOver _ _ read]
        exact ih success

theorem membersFrom_takesOver {member other : α → String → Bytes → Scan α}
    (takesOver : ∀ done name, TakesOver (member done name) (other done name)) {fuel : Nat}
    {first : Bool} {done : α} {s : Bytes} {result : α × Bytes}
    (success : membersFrom member fuel first done s = .ok result) :
    membersFrom other fuel first done s = .ok result := by
  induction fuel generalizing first done s with
  | zero => cases success
  | succ fuel ih =>
    simp only [membersFrom] at success ⊢
    split at success
    · cases success
    · exact success
    · split at success
      · cases success
      · next read =>
        simp only [takesOver _ _ _ _ read]
        exact ih success

section

variable {value other : Bytes → Scan Document} (takesOver : TakesOver value other)

include takesOver

theorem listBody_takesOver : TakesOver (listBody value) (listBody other) := by
  intro s result success
  obtain ⟨⟨xs, left⟩, read, success⟩ := eq_ok_of_bind_eq_ok success
  have readOver : items other s = .ok (xs, left) := itemsFrom_takesOver takesOver read
  simp only [listBody, readOver]
  exact success

theorem objectBody_takesOver : TakesOver (objectBody value) (objectBody other) := by
  intro s result success
  obtain ⟨⟨done, left⟩, read, success⟩ := eq_ok_of_bind_eq_ok success
  have keptOver : ∀ done name, TakesOver (keptMember value done name) (keptMember other done name) := by
    intro done name s result kept
    obtain ⟨found, named, same⟩ := eq_ok_of_map_eq_ok kept
    have namedOver : namedValue other s = .ok found := by
      unfold namedValue at named ⊢
      split at named
      · cases named
      · exact takesOver _ _ named
    rw [keptMember, namedOver, ← same]
    rfl
  have readOver : members (keptMember other) [] s = .ok (done, left) :=
    membersFrom_takesOver keptOver read
  simp only [objectBody, readOver]
  exact success

end

theorem valueWith_takesOver {list object otherList otherObject : Bytes → Scan Document}
    (lists : TakesOver list otherList) (objects : TakesOver object otherObject) :
    TakesOver (valueWith list object) (valueWith otherList otherObject) := by
  intro s result success
  unfold valueWith at success ⊢
  split at success
  · cases success
  · unfold valueFrom at success ⊢
    split at success
    · next isQuote => rw [if_pos isQuote]; exact success
    next notQuote =>
    rw [if_neg notQuote]
    split at success
    · next isBracket => rw [if_pos isBracket]; exact lists _ _ success
    next notBracket =>
    rw [if_neg notBracket]
    split at success
    · next isBrace => rw [if_pos isBrace]; exact objects _ _ success
    next notBrace =>
    rw [if_neg notBrace]
    exact success

theorem value_succ_takesOver (depth : Nat) : TakesOver (value depth) (value (depth + 1)) := by
  induction depth with
  | zero =>
    have never : ∀ other : Bytes → Scan Document, TakesOver (halt .nestedTooDeep) other :=
      fun other s result equal => by cases equal
    exact valueWith_takesOver (never _) (never _)
  | succ depth ih => exact valueWith_takesOver (listBody_takesOver ih) (objectBody_takesOver ih)

theorem value_takesOver {depth deeper : Nat} (le : depth ≤ deeper) :
    TakesOver (value depth) (value deeper) := by
  induction le with
  | refl => exact fun s result success => success
  | step _ ih => exact fun s result success => value_succ_takesOver _ s result (ih s result success)

end FrameCourier.Document
