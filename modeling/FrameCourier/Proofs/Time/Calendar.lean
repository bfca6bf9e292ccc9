import FrameCourier.Time.Calendar
import Mathlib.Algebra.Ring.Nat
import Mathlib.Tactic.Common

/-!
# Every day has its date

The date of a day number is a valid one, and it is the date of no other day.  The estimate of
the year is off by one at most, which its neighbours correct; within a year the lengths of the
months are counted off.
-/

namespace FrameCourier.Time

/-! ## Years -/

theorem daysBeforeYear_succ (year : Int) : daysBeforeYear (year + 1) =
    daysBeforeYear year + ((monthLengths (isLeapYear year)).sum : Nat) := by
  cases leap : isLeapYear year with
  | true =>
    simp only [isLeapYear, Bool.and_eq_true, Bool.or_eq_true, beq_iff_eq, bne_iff_ne, ne_eq] at leap
    simp only [daysBeforeYear, monthLengths, if_true, List.sum_cons, List.sum_nil]
    omega
  | false =>
    simp only [isLeapYear, Bool.and_eq_false_iff, Bool.or_eq_false_iff, beq_eq_false_iff_ne,
      bne_eq_false_iff_eq, ne_eq] at leap
    simp only [daysBeforeYear, monthLengths, Bool.false_eq_true, if_false, List.sum_cons,
      List.sum_nil]
    omega

theorem daysBeforeYear_mono {year later : Int} (ordered : year ≤ later) :
    daysBeforeYear year ≤ daysBeforeYear later := by
  simp only [daysBeforeYear]
  omega

namespace Date

/-- A day is in the year that is found for it. -/
theorem yearOfDay_spec (n : Int) :
    daysBeforeYear (yearOfDay n) ≤ n ∧ n < daysBeforeYear (yearOfDay n + 1) := by
  unfold yearOfDay
  simp only
  split
  · next before =>
    simp only [daysBeforeYear] at before ⊢
    omega
  split
  · next notBefore after =>
    simp only [daysBeforeYear] at after ⊢
    omega
  · next notBefore notAfter => exact ⟨Int.not_lt.mp notBefore, Int.not_le.mp notAfter⟩

/-! ## Months -/

/-- Counting off the lengths of months ends in the month that has the day. -/
theorem monthOfDay_spec {lengths : List Nat} {n : Nat} (inside : n < lengths.sum) (month : Nat) :
    ∃ passed day, ∃ length, lengths[passed]? = some length ∧ day < length ∧
      n = (lengths.take passed).sum + day ∧
      monthOfDay month lengths n = (month + passed, day + 1) := by
  induction lengths generalizing n month with
  | nil => simp at inside
  | cons first lengths ih =>
    unfold monthOfDay
    split
    · next here => exact ⟨0, n, first, rfl, here, by simp, rfl⟩
    · next later =>
      have behind : n - first < lengths.sum := by
        rw [List.sum_cons] at inside
        omega
      obtain ⟨passed, day, length, found, within, count, equal⟩ := ih behind (month + 1)
      refine ⟨passed + 1, day, length, found, within, ?_, ?_⟩
      · rw [List.take_succ_cons, List.sum_cons]
        omega
      · rw [equal, Nat.add_assoc, Nat.add_comm 1 passed]

theorem daysBeforeMonth_succ (leap : Bool) (passed : Nat) :
    daysBeforeMonth leap (1 + passed) = ((monthLengths leap).take passed).sum := by
  rw [daysBeforeMonth, Nat.add_sub_cancel_left, List.sum_eq_foldl]

/-! ## Dates -/

/-- The date of a day number: its year, and the month and day that are found in it. -/
theorem ofDays_spec (days : Int) :
    (ofDays days).year = yearOfDay (days + epochDay) ∧ (ofDays days).isValid = true ∧
      1 ≤ (ofDays days).month ∧ (ofDays days).month ≤ 12 ∧ 1 ≤ (ofDays days).day ∧
      (ofDays days).day ≤ 31 ∧ (ofDays days).toDays = days := by
  obtain ⟨low, high⟩ := yearOfDay_spec (days + epochDay)
  rw [daysBeforeYear_succ] at high
  have inside : (days + epochDay - daysBeforeYear (yearOfDay (days + epochDay))).toNat <
      (monthLengths (isLeapYear (yearOfDay (days + epochDay)))).sum := by
    omega
  obtain ⟨passed, day, length, found, within, count, equal⟩ := monthOfDay_spec inside 1
  have date : ofDays days = ⟨yearOfDay (days + epochDay), 1 + passed, day + 1⟩ := by
    simp only [ofDays, equal]
  have months : passed < 12 := by
    have bound := (List.getElem?_eq_some_iff.mp found).1
    simpa [monthLengths] using bound
  have longest : ∀ leap, ∀ length ∈ monthLengths leap, length ≤ 31 := by decide
  have lengthBound := longest _ length (List.mem_of_getElem? found)
  have lengthOfMonth : daysInMonth (yearOfDay (days + epochDay)) (1 + passed) = length := by
    simp [daysInMonth, found]
  rw [date]
  refine ⟨rfl, ?_, by simp, by simp; omega, by simp, by simp; omega, ?_⟩
  · simp only [isValid, lengthOfMonth, Bool.and_eq_true, decide_eq_true_eq]
    omega
  · simp only [toDays, daysBeforeMonth_succ]
    omega

/-- The years of days from the first of one year to the last of another. -/
theorem year_ofDays {days least greatest : Int}
    (low : daysBeforeYear least ≤ days + epochDay)
    (high : days + epochDay < daysBeforeYear (greatest + 1)) :
    least ≤ (ofDays days).year ∧ (ofDays days).year ≤ greatest := by
  obtain ⟨since, before⟩ := yearOfDay_spec (days + epochDay)
  rw [(ofDays_spec days).1]
  constructor
  · by_contra earlier
    have early := daysBeforeYear_mono (show yearOfDay (days + epochDay) + 1 ≤ least by omega)
    omega
  · by_contra later
    have late := daysBeforeYear_mono (show greatest + 1 ≤ yearOfDay (days + epochDay) by omega)
    omega

end Date

end FrameCourier.Time
