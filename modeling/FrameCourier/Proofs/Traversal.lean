import Mathlib.Data.List.Forall2

/-!
# Results one after the other

What is asked of the items of a list, one after the other, has a result for each of them, or
ends at the first item that has none.
-/

namespace FrameCourier

variable {α β ε ε' : Type}

theorem eq_ok_of_bind_eq_ok {step : Except ε α} {next : α → Except ε β} {y : β}
    (success : step >>= next = .ok y) : ∃ x, step = .ok x ∧ next x = .ok y := by
  cases step with
  | error e => cases success
  | ok x => exact ⟨x, rfl, success⟩

/-- A sequence of two steps fails in the first one or, with its result, in the second one. -/
theorem eq_error_of_bind_eq_error {step : Except ε α} {next : α → Except ε β} {fault : ε}
    (failure : step >>= next = .error fault) :
    step = .error fault ∨ ∃ x, step = .ok x ∧ next x = .error fault := by
  cases step with
  | error e =>
    cases failure
    exact .inl rfl
  | ok x => exact .inr ⟨x, rfl, failure⟩

theorem eq_ok_of_map_eq_ok {step : Except ε α} {f : α → β} {y : β}
    (success : step.map f = .ok y) : ∃ x, step = .ok x ∧ f x = y := by
  cases step with
  | error e => cases success
  | ok x => exact ⟨x, rfl, Except.ok.inj success⟩

theorem mapError_eq_ok {result : Except ε α} {wrap : ε → ε'} {x : α} :
    result.mapError wrap = .ok x ↔ result = .ok x := by
  cases result <;> simp [Except.mapError]

/-- If every item has its result, so does the whole list. -/
theorem mapM_eq_ok_map {f : α → Except ε β} {g : α → β} {xs : List α}
    (results : ∀ x ∈ xs, f x = .ok (g x)) : xs.mapM f = .ok (xs.map g) := by
  induction xs with
  | nil => rfl
  | cons x xs ih =>
    have rest := ih fun y inside => results y (List.mem_cons_of_mem _ inside)
    rw [List.mapM_cons, results x List.mem_cons_self, rest]
    rfl

/-- If items fail alike, so does the whole list. -/
theorem mapM_eq_mapError {f : α → Except ε β} {g : α → Except ε' β} {wrap : ε → ε'}
    {xs : List α} (agree : ∀ x ∈ xs, g x = (f x).mapError wrap) :
    xs.mapM g = (xs.mapM f).mapError wrap := by
  induction xs with
  | nil => rfl
  | cons x xs ih =>
    have rest := ih fun y inside => agree y (List.mem_cons_of_mem _ inside)
    rw [List.mapM_cons, List.mapM_cons, agree x List.mem_cons_self, rest]
    cases f x with
    | error fault => rfl
    | ok y => cases xs.mapM f <;> rfl

theorem forall₂_of_mapM_eq_ok {f : α → Except ε β} {xs : List α} {ys : List β}
    (success : xs.mapM f = .ok ys) : List.Forall₂ (fun x y => f x = .ok y) xs ys := by
  induction xs generalizing ys with
  | nil =>
    cases success
    exact .nil
  | cons x xs ih =>
    rw [List.mapM_cons] at success
    obtain ⟨y, first, success⟩ := eq_ok_of_bind_eq_ok success
    obtain ⟨zs, others, equal⟩ := eq_ok_of_bind_eq_ok success
    cases equal
    exact .cons first (ih others)

theorem mapM_eq_ok_of_forall₂ {f : α → Except ε β} {xs : List α} {ys : List β}
    (each : List.Forall₂ (fun x y => f x = .ok y) xs ys) : xs.mapM f = .ok ys := by
  induction each with
  | nil => rfl
  | cons first _ ih =>
    rw [List.mapM_cons, first, ih]
    rfl

/-- If every item has a result of a kind, so does the whole list. -/
theorem exists_mapM_eq_ok {f : α → Except ε β} {R : α → β → Prop} {xs : List α}
    (results : ∀ x ∈ xs, ∃ y, f x = .ok y ∧ R x y) :
    ∃ ys, xs.mapM f = .ok ys ∧ List.Forall₂ R xs ys := by
  induction xs with
  | nil => exact ⟨[], rfl, .nil⟩
  | cons x xs ih =>
    obtain ⟨y, first, related⟩ := results x List.mem_cons_self
    obtain ⟨ys, others, relatedAll⟩ := ih fun z inside => results z (List.mem_cons_of_mem _ inside)
    refine ⟨y :: ys, ?_, .cons related relatedAll⟩
    rw [List.mapM_cons, first, others]
    rfl

/-- The first item that has no result decides how the whole list fails. -/
theorem mapM_eq_error {f : α → Except ε β} {before later : List α} {x : α} {fault : ε}
    (earlier : ∀ y ∈ before, ∃ z, f y = .ok z) (failure : f x = .error fault) :
    (before ++ x :: later).mapM f = .error fault := by
  induction before with
  | nil =>
    rw [List.nil_append, List.mapM_cons, failure]
    rfl
  | cons y before ih =>
    obtain ⟨z, result⟩ := earlier y List.mem_cons_self
    have rest := ih fun y' inside => earlier y' (List.mem_cons_of_mem _ inside)
    rw [List.cons_append, List.mapM_cons, result, rest]
    rfl

/-- Where a list ends without results: at the first item that has none. -/
theorem exists_of_mapM_eq_error {f : α → Except ε β} {xs : List α} {fault : ε}
    (failure : xs.mapM f = .error fault) :
    ∃ before x later, xs = before ++ x :: later ∧ f x = .error fault ∧
      ∀ earlier ∈ before, ∃ y, f earlier = .ok y := by
  induction xs with
  | nil => cases failure
  | cons x xs ih =>
    rw [List.mapM_cons] at failure
    cases first : f x with
    | error other =>
      rw [first] at failure
      cases failure
      exact ⟨[], x, xs, rfl, first, fun _ inside => by cases inside⟩
    | ok y =>
      rw [first] at failure
      cases others : xs.mapM f with
      | ok zs =>
        rw [others] at failure
        cases failure
      | error other =>
        rw [others] at failure
        cases failure
        obtain ⟨before, x', later, rfl, fails, earlier⟩ := ih others
        refine ⟨x :: before, x', later, rfl, fails, fun z inside => ?_⟩
        rcases List.mem_cons.mp inside with rfl | inside
        · exact ⟨y, first⟩
        · exact earlier z inside

/-- Lists that are related item by item are related at each position. -/
theorem forall₂_getElem? {R : α → β → Prop} {xs : List α} {ys : List β}
    (related : List.Forall₂ R xs ys) {position : Nat} {x : α} (placed : xs[position]? = some x) :
    ∃ y, ys[position]? = some y ∧ R x y := by
  induction related generalizing position with
  | nil => cases placed
  | cons first _ ih =>
    cases position with
    | zero =>
      cases placed
      exact ⟨_, rfl, first⟩
    | succ position => exact ih placed

theorem forall₂_comp {γ : Type} {R : α → β → Prop} {S : β → γ → Prop} {xs : List α} {ys : List β}
    {zs : List γ} (first : List.Forall₂ R xs ys) (second : List.Forall₂ S ys zs) :
    List.Forall₂ (fun x z => ∃ y, R x y ∧ S y z) xs zs := by
  induction first generalizing zs with
  | nil =>
    cases second
    exact .nil
  | cons related _ ih =>
    cases second with
    | cons next others => exact .cons ⟨_, related, next⟩ (ih others)

/-- What lies between related lists can be taken apart again. -/
theorem exists_forall₂_of_forall₂_comp {γ : Type} {R : α → β → Prop} {S : β → γ → Prop} {xs : List α}
    {zs : List γ} (related : List.Forall₂ (fun x z => ∃ y, R x y ∧ S y z) xs zs) :
    ∃ ys, List.Forall₂ R xs ys ∧ List.Forall₂ S ys zs := by
  induction related with
  | nil => exact ⟨[], .nil, .nil⟩
  | cons first _ ih =>
    obtain ⟨y, before, behind⟩ := first
    obtain ⟨ys, allBefore, allBehind⟩ := ih
    exact ⟨y :: ys, .cons before allBefore, .cons behind allBehind⟩

end FrameCourier
