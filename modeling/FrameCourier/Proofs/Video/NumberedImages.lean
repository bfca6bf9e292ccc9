import FrameCourier.Proofs.Folder
import FrameCourier.Proofs.Text.DigitOrder
import FrameCourier.Video.Conversion
import Mathlib.Data.String.Basic

/-!
# Numbered images

Images are named for their numbers, with five digits or as many more as it takes, and the names
of different numbers differ.  By name they are in the order of their numbers as long as five
digits are enough for all of them.  With six, the image 100000 comes behind the image 10000.
-/

namespace FrameCourier.Video

open Text

/-! ## Names -/

/-- The name of the image with the given number. -/
def imageName (n : Nat) : String := "frame_" ++ padded 5 n ++ ".jpg"

theorem numberedImageName_eq (index : UInt32) :
    numberedImageName index = imageName index.toNat := rfl

theorem toList_imageName (n : Nat) : (imageName n).toList =
    "frame_".toList ++ ((padded 5 n).toList ++ ".jpg".toList) := by
  simp only [imageName, String.toList_append, List.append_assoc]

theorem imageName_inj {m n : Nat} : imageName m = imageName n ↔ m = n := by
  constructor
  · intro same
    have texts := congrArg String.toList same
    rw [toList_imageName, toList_imageName] at texts
    have digits := List.append_cancel_right (List.append_cancel_left texts)
    have values := congrArg Time.digitsValue digits
    rwa [digitsValue_padded, digitsValue_padded] at values
  · exact congrArg imageName

theorem numberedImageName_inj {index other : UInt32} :
    numberedImageName index = numberedImageName other ↔ index = other := by
  rw [numberedImageName_eq, numberedImageName_eq, imageName_inj, UInt32.toNat_inj]

theorem numberedImageName_ofNat {n : Nat} (few : n < 2 ^ 32) :
    numberedImageName (UInt32.ofNat n) = imageName n := by
  rw [numberedImageName_eq, UInt32.toNat_ofNat_of_lt' few]

theorem isImageName_imageName (n : Nat) : isImageName (imageName n) = true := by
  rw [isImageName, toList_imageName, ← List.append_assoc]
  exact List.isSuffixOf_iff_suffix.mpr (List.suffix_append _ _)

/-! ## The order of names -/

theorem imageName_le {m n : Nat} (ordered : (padded 5 m).toList ≤ (padded 5 n).toList) :
    imageName m ≤ imageName n := by
  rcases ordered.eq_or_lt with equal | less
  · rw [imageName, imageName, String.toList_inj.mp equal]
  · apply le_of_lt
    rw [String.lt_iff_toList_lt, toList_imageName, toList_imageName]
    exact List.append_left_lt
      (append_lt_append (allDigits_padded 5 n) (by decide : '.'.toNat < 48) less)

theorem imageName_le_of_lt {m n : Nat} (ordered : m ≤ n) (short : n < 100000) :
    imageName m ≤ imageName n :=
  imageName_le (padded_le_padded_of_lt (by decide : 0 < 5) ordered short)

theorem imageName_le_of_le {m n : Nat} (low : m ≤ 10000) (high : 10000 ≤ n) :
    imageName m ≤ imageName n :=
  imageName_le (padded_le_padded_of_le (by decide : 1 < 5) low high)

/-- The name of the image 100000 comes before those of all images from 10001 on. -/
theorem imageName_hundredThousand_le {n : Nat} (high : 10000 < n) :
    imageName 100000 ≤ imageName n := by
  apply imageName_le
  by_cases short : n < 100000
  · have digits : (padded 5 100000).toList = (padded 5 10000).toList ++ ['0'] :=
      padded_of_le (by decide) (by decide)
    have lengths : (padded 5 10000).toList.length = (padded 5 n).toList.length := by
      rw [length_padded (by decide) (by decide), length_padded (by decide) short]
    rw [digits]
    rcases eq_or_append_lt (allDigits_padded 5 10000) (allDigits_padded 5 n) lengths
      (by rw [digitsValue_padded, digitsValue_padded]; exact high.le) with equal | less
    · have values := congrArg Time.digitsValue equal
      rw [digitsValue_padded, digitsValue_padded] at values
      omega
    · have first := less ['0'] []
      rw [List.append_nil] at first
      exact first.le
  · -- Six digits fill a padding of five as they fill one of six.
    have six (k : Nat) (long : 100000 ≤ k) : (padded 5 k).toList = (padded 6 k).toList := by
      rw [toList_padded_of_le (by decide) ((by decide : 10 ^ (5 - 1) ≤ 100000).trans long),
        toList_padded_of_le (by decide) long]
    rw [six 100000 (Nat.le_refl _), six n (Nat.not_lt.mp short)]
    exact padded_le_padded_of_le (by decide) (Nat.le_refl _) (Nat.not_lt.mp short)

/-! ## Images under their names -/

/-- Images under the names of the numbers from `first` on. -/
def numberedFrom (first : Nat) : List Bytes → Listing
  | [] => []
  | image :: rest => (imageName first, .file image) :: numberedFrom (first + 1) rest

theorem numberedFrom_append (first : Nat) (images more : List Bytes) :
    numberedFrom first (images ++ more) =
      numberedFrom first images ++ numberedFrom (first + images.length) more := by
  induction images generalizing first with
  | nil => rfl
  | cons image images ih =>
    rw [List.cons_append, numberedFrom, ih, numberedFrom, List.length_cons, List.cons_append,
      Nat.add_right_comm, Nat.add_assoc]

variable {first : Nat} {images : List Bytes} {folder : Listing}

theorem exists_of_mem_numberedFrom {entry : String × Node}
    (member : entry ∈ numberedFrom first images) :
    ∃ n, first ≤ n ∧ n < first + images.length ∧ entry.1 = imageName n := by
  induction images generalizing first with
  | nil => cases member
  | cons image images ih =>
    rw [List.length_cons]
    rcases List.mem_cons.mp member with rfl | later
    · exact ⟨first, Nat.le_refl _, by omega, rfl⟩
    · obtain ⟨n, low, high, name⟩ := ih later
      exact ⟨n, by omega, by omega, name⟩

/-- What holds of the names of any two of the numbers holds of the names in the list. -/
theorem pairwise_numberedFrom {related : String → String → Prop}
    (numbers : ∀ m n, first ≤ m → m < n → n < first + images.length →
      related (imageName m) (imageName n)) :
    (numberedFrom first images).Pairwise fun a b => related a.1 b.1 := by
  induction images generalizing first with
  | nil => exact List.Pairwise.nil
  | cons image images ih =>
    rw [List.length_cons] at numbers
    rw [numberedFrom, List.pairwise_cons]
    constructor
    · intro entry member
      obtain ⟨n, low, high, name⟩ := exists_of_mem_numberedFrom member
      rw [name]
      exact numbers first n (Nat.le_refl _) low (by omega)
    · exact ih fun m n low less high => numbers m n (by omega) less (by omega)

theorem distinct_numberedFrom (first : Nat) (images : List Bytes) :
    (numberedFrom first images).Distinct := by
  rw [Listing.Distinct, Listing.names, List.Nodup, List.pairwise_map]
  exact pairwise_numberedFrom fun m n _ less _ => by
    rw [ne_eq, imageName_inj]
    omega

theorem filter_numberedFrom (first : Nat) (images : List Bytes) :
    (numberedFrom first images).filter (fun entry => isImageName entry.1) =
      numberedFrom first images := by
  rw [List.filter_eq_self]
  intro entry member
  obtain ⟨n, _, _, name⟩ := exists_of_mem_numberedFrom member
  rw [name, isImageName_imageName]

/-! ## Images by name -/

theorem perm_imagesOf (folder : Listing) :
    (imagesOf folder).Perm (folder.filter fun entry => isImageName entry.1) :=
  List.mergeSort_perm _ _

theorem pairwise_imagesOf (folder : Listing) :
    (imagesOf folder).Pairwise fun a b => a.1 ≤ b.1 := by
  have notAfter (a b : String × Node) : (!decide (b.1 < a.1)) = true ↔ a.1 ≤ b.1 := by
    rw [Bool.not_eq_true', decide_eq_false_iff_not, not_lt]
  refine (List.pairwise_mergeSort ?_ ?_ _).imp (notAfter _ _).mp
  · intro a b c
    rw [notAfter, notAfter, notAfter]
    exact le_trans
  · intro a b
    rw [Bool.or_eq_true, notAfter, notAfter]
    exact le_total a.1 b.1

/-- However a folder is listed, its images by name are the ones that are in that order. -/
theorem imagesOf_eq_of_perm {sorted : Listing} (distinct : sorted.Distinct)
    (perm : sorted.Perm (folder.filter fun entry => isImageName entry.1))
    (ordered : sorted.Pairwise fun a b => a.1 ≤ b.1) : imagesOf folder = sorted := by
  have same := (perm_imagesOf folder).trans perm.symm
  refine List.Perm.eq_of_pairwise (fun a b left right before after => ?_)
    (pairwise_imagesOf folder) ordered same
  exact distinct.eq_of_name_eq (same.mem_iff.mp left) right (le_antisymm before after)

/-! ## The check of names -/

/-- Names from `first` on pass the check, and it goes on behind them. -/
theorem checkFrom_numberedFrom (few : first + images.length ≤ 2 ^ 32) (rest : List String) :
    checkFrom first ((numberedFrom first images).map Prod.fst ++ rest) =
      checkFrom (first + images.length) rest := by
  induction images generalizing first with
  | nil => rfl
  | cons image images ih =>
    rw [List.length_cons] at few ⊢
    rw [numberedFrom, List.map_cons, List.cons_append, checkFrom,
      if_pos (numberedImageName_ofNat (by omega)).symm,
      ih (by omega)]
    congr 1
    omega

end FrameCourier.Video
