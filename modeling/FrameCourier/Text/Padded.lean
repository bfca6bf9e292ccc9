/-!
# Padded numbers

File names and times write numbers with zeros before them up to a width; a number that
needs more digits than that has them all.
-/

namespace FrameCourier.Text

/-- The decimal digits of a number, with zeros before them up to a width. -/
def padded (width n : Nat) : String :=
  let digits := Nat.toDigits 10 n
  String.ofList (List.replicate (width - digits.length) '0' ++ digits)

end FrameCourier.Text
