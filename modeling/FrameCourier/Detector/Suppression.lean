import FrameCourier.Number.Binary

/-!
# Overlap suppression

Of candidates for the same object only the most confident one is kept: the first of the
list, and after it whatever overlaps none of the kept ones by the threshold or more.

Every pass compares the best candidate with the whole list, itself included, and counts on
its overlap with itself to remove it.  A box of negative extent does not overlap itself, so
a pass may leave the list as it is; suppression then has no end and no result.
-/

namespace FrameCourier

open Number

/-- A box, from its least to its greatest corner, and what it may hold. -/
structure Candidate where
  classNumber : Nat
  confidence : Single
  left : Single
  top : Single
  right : Single
  bottom : Single
  deriving DecidableEq, Repr

namespace Candidate

/-- Zero, without a sign. -/
def nothing : Single := Binary.zero _ false

/-- The area that two boxes share. -/
def intersection (a b : Candidate) : Single :=
  let width := ((a.right.min b.right) - (a.left.max b.left)).max nothing
  let height := ((a.bottom.min b.bottom) - (a.top.max b.top)).max nothing
  width * height

/-- The area that two boxes cover together. -/
def union (a b : Candidate) : Single :=
  (a.right - a.left) * (a.bottom - a.top) + (b.right - b.left) * (b.bottom - b.top) -
    intersection a b

/-- The share of the common area in the whole. -/
def overlap (a b : Candidate) : Single := intersection a b / union a b

/-- The overlap from which on two candidates stand for the same object: the number of
single precision that is nearest to 0.7. -/
def threshold : Single := Binary.ofRat _ false (7 / 10)

/-- Whether two candidates stand for different objects.  An overlap that is not a number
does not say so. -/
def isApart (a b : Candidate) : Bool := (overlap a b).lt threshold

/-- What the best candidate leaves of a list whose first it is. -/
def pass : List Candidate → List Candidate
  | [] => []
  | best :: rest => (best :: rest).filter best.isApart

/-- The candidates that are kept, if suppression ends. -/
def suppress (candidates : List Candidate) : Option (List Candidate) :=
  match candidates with
  | [] => some []
  | best :: rest =>
    if best.isApart best then none
    else (suppress (rest.filter best.isApart)).map (best :: ·)
termination_by candidates.length
decreasing_by
  simp only [List.unattach_filter, List.unattach_attach, List.length_cons]
  exact Nat.lt_succ_of_le (List.length_filter_le _ _)

/-- A pass that removes the best candidate leaves what the next pass begins with. -/
theorem pass_cons_of_not_isApart {best : Candidate} {rest : List Candidate}
    (h : best.isApart best = false) : pass (best :: rest) = rest.filter best.isApart := by
  simp [pass, h]

end Candidate

end FrameCourier
