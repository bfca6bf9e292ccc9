import FrameCourier.Client
import FrameCourier.Proofs.Document.Integers
import FrameCourier.Proofs.Number.Range

/-!
# Scores in hundredths

A confidence that is a number is reported as one of the hundredths from 0 to 1, or as a negative
zero.  All of them are read as they are written, and the client takes them for scores.
-/

namespace FrameCourier.Wire

open Number Document

/-- So many hundredths. -/
def hundredth (n : Nat) : Double := .ofInt _ n / .ofInt _ 100

theorem isNotANumber_one : (Binary.ofInt Format.single 1).isNotANumber = false := by
  decide +kernel

/-- A score as it is reported: one of the hundredths from 0 to 1, or a negative zero. -/
def IsHundredth (score : Double) : Prop :=
  (∃ n ≤ 100, score = hundredth n) ∨ score = .zero _ true

/-- A confidence is cut to the range from 0 to 1, multiplied to one from 0 to 100 and rounded to
an integer there. -/
theorem isHundredth_hundredths {confidence : Single} (number : confidence.isNotANumber = false) :
    IsHundredth (hundredths confidence) := by
  have unit := Binary.isWithin_clamp number isNotANumber_one (by decide +kernel)
  have double := unit.convert (by decide +kernel) Format.double
  have percent := double.mul (by decide +kernel) (c := .ofInt _ 100) (by decide +kernel)
    (by decide +kernel) (by decide +kernel)
  have rounded := percent.round (by decide +kernel)
  have greatest : roundHalfUp (Format.double.magnitude (Format.double.nearestCode
      (Format.double.magnitude (Format.double.nearestCode
        (Format.single.magnitude (Binary.ofInt Format.single 1).code)) *
          (Binary.ofInt Format.double 100).value))) = 100 := by
    decide +kernel
  rw [greatest] at rounded
  rcases rounded with ⟨n, bound, equal⟩ | equal
  · refine .inl ⟨n, by omega, ?_⟩
    unfold hundredths hundredth
    rw [← equal]
  · right
    unfold hundredths
    show Binary.round _ / _ = _
    rw [equal]
    decide +kernel

/-- Whether a number is read as it is written, and the client takes it for a score. -/
def IsScore (score : Double) : Prop :=
  numeral (numberLiteral (.real score)) = .ok (.real score, []) ∧
    Client.isUnitScore score = true

instance (score : Double) : Decidable (IsScore score) :=
  inferInstanceAs (Decidable (_ ∧ _))

theorem IsHundredth.isScore {score : Double} (hundred : IsHundredth score) : IsScore score := by
  have positive : ∀ n < 101, IsScore (hundredth n) := by decide +kernel
  have negativeZero : IsScore (.zero _ true) := by decide +kernel
  rcases hundred with ⟨n, bound, equal⟩ | equal
  · rw [equal]
    exact positive n (by omega)
  · rw [equal]
    exact negativeZero

theorem isScore_hundredths {confidence : Single} (number : confidence.isNotANumber = false) :
    IsScore (hundredths confidence) :=
  (isHundredth_hundredths number).isScore

/-- A confidence that is no number passes through the range, the products and the rounding as
what it is. -/
theorem isNotANumber_hundredths {confidence : Single} (noNumber : confidence.isNotANumber = true) :
    (hundredths confidence).isNotANumber = true := by
  have cut : confidence.clamp (.zero _ false) (.ofInt _ 1) = confidence := by
    simp [Binary.clamp, Binary.lt, noNumber]
  have double : confidence.convert .double = .notANumber .double := by
    simp [Binary.convert, noNumber]
  simp only [hundredths, cut, double]
  decide +kernel

end FrameCourier.Wire
