import Mathlib.Data.List.Nodup
import Mathlib.Data.List.Perm.Subperm

/-!
# Greedy choice

Of a list of items the first is chosen, and after it each item that is apart from all that were
chosen before it.  The items that are chosen are the only ones with this property.
-/

namespace FrameCourier

variable {α β : Type} {apart : α → α → Bool}

/-- Chooses the first item, and then among those that are apart from it. -/
def greedy (apart : α → α → Bool) : List α → List α
  | [] => []
  | best :: rest => best :: greedy apart (rest.filter (apart best))
termination_by items => items.length
decreasing_by
  simp only [List.unattach_filter, List.unattach_attach, List.length_cons]
  exact Nat.lt_succ_of_le (List.length_filter_le _ _)

/-- A choice among items in which exactly those are chosen that are apart from all chosen
earlier. -/
structure IsGreedy (apart : α → α → Bool) (items chosen : List α) : Prop where
  sublist : chosen.Sublist items
  mem_iff : ∀ before item after, items = before ++ item :: after →
    (item ∈ chosen ↔ ∀ earlier ∈ before, earlier ∈ chosen → apart earlier item = true)

theorem greedy_nil : greedy apart [] = [] := by rw [greedy.eq_def]

theorem greedy_cons (best : α) (rest : List α) :
    greedy apart (best :: rest) = best :: greedy apart (rest.filter (apart best)) := by
  rw [greedy.eq_def]

/-- Induction over the choices. -/
theorem greedy_induction (apart : α → α → Bool) {motive : List α → Prop} (nil : motive [])
    (cons : ∀ best rest, motive (rest.filter (apart best)) → motive (best :: rest)) :
    ∀ items, motive items
  | [] => nil
  | best :: rest => cons best rest (greedy_induction apart nil cons _)
termination_by items => items.length
decreasing_by exact Nat.lt_succ_of_le (List.length_filter_le _ _)

theorem greedy_sublist (items : List α) : (greedy apart items).Sublist items := by
  induction items using greedy_induction apart with
  | nil => rw [greedy_nil]
  | cons best rest ih =>
    rw [greedy_cons]
    exact (ih.trans List.filter_sublist).cons_cons best

/-- Items are chosen by their images. -/
theorem greedy_map (f : β → α) (items : List β) :
    greedy apart (items.map f) = (greedy (fun a b => apart (f a) (f b)) items).map f := by
  induction items using greedy_induction fun a b => apart (f a) (f b) with
  | nil => rw [List.map_nil, greedy_nil, greedy_nil, List.map_nil]
  | cons best rest ih =>
    rw [List.map_cons, greedy_cons, greedy_cons, List.map_cons, List.filter_map, ← ih]
    rfl

/-- The greedy choice among distinct items is one. -/
theorem isGreedy_greedy {items : List α} (distinct : items.Nodup) :
    IsGreedy apart items (greedy apart items) := by
  refine ⟨greedy_sublist items, ?_⟩
  induction items using greedy_induction apart with
  | nil =>
    intro before item after split
    simp at split
  | cons best rest ih =>
    obtain ⟨new, distinct⟩ := List.nodup_cons.mp distinct
    intro before item after split
    have chosenApart : ∀ earlier ∈ greedy apart (rest.filter (apart best)),
        apart best earlier = true := fun earlier chosen =>
      (List.mem_filter.mp ((greedy_sublist _).mem chosen)).2
    rw [greedy_cons]
    cases before with
    | nil =>
      cases split
      simp
    | cons first before =>
      rw [List.cons_append, List.cons.injEq] at split
      obtain ⟨rfl, split⟩ := split
      have later : item ≠ best := fun same => new (by simp [split, ← same])
      rw [List.mem_cons, or_iff_right later]
      cases notSame : apart best item with
      | false =>
        -- The first item already keeps this one out.
        constructor
        · intro chosen
          rw [chosenApart item chosen] at notSame
          cases notSame
        · intro all
          rw [all best List.mem_cons_self List.mem_cons_self] at notSame
          cases notSame
      | true =>
        have ahead : rest.filter (apart best) =
            before.filter (apart best) ++ item :: after.filter (apart best) := by
          rw [split, List.filter_append, List.filter_cons_of_pos notSame]
        rw [ih (distinct.filter _) _ item _ ahead]
        constructor
        · intro all earlier place chosen
          rcases List.mem_cons.mp chosen with rfl | chosen
          · exact notSame
          · have apartBest := chosenApart earlier chosen
            rcases List.mem_cons.mp place with rfl | place
            · exact notSame
            · exact all earlier (List.mem_filter.mpr ⟨place, apartBest⟩) chosen
        · intro all earlier place chosen
          exact all earlier (List.mem_cons_of_mem _ (List.mem_of_mem_filter place))
            (List.mem_cons_of_mem _ chosen)

namespace IsGreedy

variable {items chosen : List α}

/-- An item that is not chosen is not apart from an earlier one that is. -/
theorem exists_of_not_mem (greedy : IsGreedy apart items chosen) {item : α} (mem : item ∈ items)
    (left : item ∉ chosen) :
    ∃ earlier ∈ chosen, apart earlier item = false ∧ [earlier, item].Sublist items := by
  obtain ⟨before, after, split⟩ := List.append_of_mem mem
  have overlaps := mt (greedy.mem_iff before item after split).mpr left
  push Not at overlaps
  obtain ⟨earlier, place, kept, notApart⟩ := overlaps
  refine ⟨earlier, kept, Bool.eq_false_iff.mpr notApart, ?_⟩
  rw [split]
  exact (List.singleton_sublist.mpr place).append (List.singleton_sublist.mpr List.mem_cons_self)

/-- The chosen items are apart. -/
theorem pairwise (greedy : IsGreedy apart items chosen) :
    chosen.Pairwise fun earlier later => apart earlier later = true := by
  rw [List.pairwise_iff_forall_sublist]
  intro earlier later both
  obtain ⟨before, behind, split, place, rest⟩ :=
    List.cons_sublist_iff.mp (both.trans greedy.sublist)
  obtain ⟨between, after, rfl⟩ := List.append_of_mem (List.singleton_sublist.mp rest)
  refine (greedy.mem_iff (before ++ between) later after ?_).mp (both.mem (by simp)) earlier
    (List.mem_append_left _ place) (both.mem (by simp))
  rw [split, List.append_assoc]

/-- Among distinct items there is only one greedy choice. -/
theorem unique (distinct : items.Nodup) {other : List α} (first : IsGreedy apart items chosen)
    (second : IsGreedy apart items other) : chosen = other := by
  -- Whether an item is chosen depends on the items before it alone.
  have same : ∀ size before item after, before.length = size → items = before ++ item :: after →
      (item ∈ chosen ↔ item ∈ other) := by
    intro size
    induction size using Nat.strongRecOn with
    | ind size ih =>
      intro before item after length split
      rw [first.mem_iff before item after split, second.mem_iff before item after split]
      refine forall₂_congr fun earlier place => ?_
      obtain ⟨front, between, rfl⟩ := List.append_of_mem place
      rw [ih front.length (by simp [← length]) front earlier (between ++ item :: after) rfl
        (by simp [split])]
  refine (List.Nodup.perm_iff_eq_of_sublist distinct first.sublist second.sublist).mp ?_
  rw [List.perm_ext_iff_of_nodup (distinct.sublist first.sublist)
    (distinct.sublist second.sublist)]
  intro item
  constructor
  · intro mem
    obtain ⟨before, after, split⟩ := List.append_of_mem (first.sublist.mem mem)
    exact (same _ before item after rfl split).mp mem
  · intro mem
    obtain ⟨before, after, split⟩ := List.append_of_mem (second.sublist.mem mem)
    exact (same _ before item after rfl split).mpr mem

end IsGreedy

end FrameCourier
