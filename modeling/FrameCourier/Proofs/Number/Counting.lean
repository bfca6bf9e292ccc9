import Mathlib.Algebra.Ring.Nat
import Mathlib.Data.List.Nodup
import Mathlib.Data.List.Range

/-!
# Counting in 32 bits

What counts in 32 bits begins anew behind the greatest number.  Such a count from 1 says 1, 2, 3
and so on as long as it is shorter than there are numbers, and not from there on.
-/

namespace FrameCourier

variable {numbers : List UInt32}

/-- The numbers from `first` on, which begin anew when they are used up. -/
def CountsFrom (first : Nat) (numbers : List UInt32) : Prop :=
  numbers = (List.range' first numbers.length).map UInt32.ofNat

/-- The numbers are `first`, `first + 1` and so on. -/
def IsCount (first : Nat) (numbers : List UInt32) : Prop :=
  numbers.map UInt32.toNat = List.range' first numbers.length

/-! ## Both kinds number by number -/

theorem countsFrom_cons {number : UInt32} {first : Nat} :
    CountsFrom first (number :: numbers) ↔
      number = UInt32.ofNat first ∧ CountsFrom (first + 1) numbers := by
  rw [CountsFrom, List.length_cons, List.range'_succ, List.map_cons, List.cons.injEq]
  rfl

theorem isCount_cons {number : UInt32} {first : Nat} :
    IsCount first (number :: numbers) ↔ number.toNat = first ∧ IsCount (first + 1) numbers := by
  rw [IsCount, List.map_cons, List.length_cons, List.range'_succ, List.cons.injEq]
  rfl

/-- The number at a place is that of the place. -/
theorem CountsFrom.eq_of_getElem? {first position : Nat} {number : UInt32}
    (counts : CountsFrom first numbers) (placed : numbers[position]? = some number) :
    number = UInt32.ofNat (first + position) := by
  obtain ⟨inside, -⟩ := List.getElem?_eq_some_iff.mp placed
  rw [CountsFrom] at counts
  rw [counts, List.getElem?_map, List.getElem?_range' inside, Option.map_some] at placed
  rw [← Option.some.inj placed, Nat.one_mul]

/-! ## Numbers that do not begin anew -/

namespace IsCount

variable {first : Nat} (count : IsCount first numbers)

include count

theorem countsFrom : CountsFrom first numbers := by
  rw [CountsFrom, ← count, List.map_map]
  exact (List.map_id' numbers).symm.trans
    (List.map_congr_left fun number _ => UInt32.ofNat_toNat.symm)

theorem getElem {position : Nat} (inside : position < numbers.length) :
    numbers[position].toNat = first + position := by
  have numbersAt := congrArg (fun list => list[position]?) count
  simpa [inside] using numbersAt

theorem pairwise_lt : numbers.Pairwise (· < ·) := by
  have increasing : (numbers.map UInt32.toNat).Pairwise (· < ·) := by
    rw [count]
    exact List.pairwise_lt_range'
  exact (List.pairwise_map.mp increasing).imp UInt32.lt_iff_toNat_lt.mpr

theorem nodup : numbers.Nodup := count.pairwise_lt.imp UInt32.ne_of_lt

/-- No list counts beyond the greatest number. -/
theorem add_length_le (some : numbers ≠ []) : first + numbers.length ≤ 2 ^ 32 := by
  have positive := List.length_pos_of_ne_nil some
  have inside : numbers.length - 1 < numbers.length := Nat.sub_lt positive Nat.one_pos
  have last := count.getElem inside
  have bound := numbers[numbers.length - 1].toNat_lt
  omega

end IsCount

/-- A list that counts says the numbers themselves as long as it does not begin anew. -/
theorem CountsFrom.isCount {first : Nat} (counts : CountsFrom first numbers)
    (few : first + numbers.length ≤ 2 ^ 32) : IsCount first numbers := by
  have back : ∀ n ∈ List.range' first numbers.length, (UInt32.toNat ∘ UInt32.ofNat) n = id n := by
    intro n member
    have last := (List.mem_range'_1.mp member).2
    exact UInt32.toNat_ofNat_of_lt' (by rw [UInt32.size]; omega)
  have same := congrArg (List.map UInt32.toNat) counts
  rw [List.map_map, List.map_congr_left back, List.map_id] at same
  exact same

/-- A list that counts from 1 is numbered 1, 2, 3 and so on exactly if it is shorter than there are
numbers. -/
theorem isCount_one_iff :
    IsCount 1 numbers ↔ CountsFrom 1 numbers ∧ numbers.length < 2 ^ 32 := by
  constructor
  · intro count
    refine ⟨count.countsFrom, ?_⟩
    by_cases some : numbers = []
    · rw [some]
      exact Nat.two_pow_pos 32
    · have bound := count.add_length_le some
      omega
  · rintro ⟨counts, few⟩
    exact counts.isCount (by omega)

end FrameCourier
