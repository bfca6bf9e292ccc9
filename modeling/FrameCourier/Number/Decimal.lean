import FrameCourier.Number.Binary

/-!
# Shortest decimals

A finite positive number is written with the fewest decimal digits that still read
back as the same number, and of those the digits nearest to it.  The reals that read
back reach half-way to either neighbour, the ends included when the code is even.  A
grid of decimals with a point in that interval has one of the two grid points around
the number itself in it, so only those two are tried.

How the digits are laid out, and which of two decimals is taken if both are as near, are
separate decisions, one record for each kind of text.
-/

namespace FrameCourier.Number

/-- The number `digits · 10 ^ exponent`. -/
structure Decimal where
  digits : Nat
  exponent : Int
  deriving DecidableEq, Repr

/-- How many decimal digits a number has; none for zero. -/
def decimalLength (n : Nat) : Nat := if n = 0 then 0 else (Nat.toDigits 10 n).length

/-- The greatest exponent `k` with `10 ^ k ≤ x`, for a positive `x`. -/
def floorLog10 (x : Rat) : Int :=
  if 1 ≤ x then (decimalLength x.floor.toNat : Int) - 1
  else -(decimalLength (x⁻¹.ceil.toNat - 1) : Int)

/-- Which of the two integers next to a number is taken if it lies halfway between them. -/
inductive Tie where
  | even
  | greater
  deriving DecidableEq, Repr

/-- The nearest integer to a rational that is not negative. -/
def Tie.round : Tie → Rat → Int
  | even => roundHalfEven
  | greater => roundHalfUp

namespace Format

/-- The lower end of the reals that round to a positive finite code. -/
def lowerEnd (F : Format) (code : Nat) : Rat := (F.magnitude (code - 1) + F.magnitude code) / 2

/-- The upper end of the reals that round to a positive finite code. -/
def upperEnd (F : Format) (code : Nat) : Rat := (F.magnitude code + F.magnitude (code + 1)) / 2

/-- Whether a positive rational reads back as the code. -/
def readsBack (F : Format) (code : Nat) (x : Rat) : Bool :=
  if code % 2 = 0 then decide (F.lowerEnd code ≤ x) && decide (x ≤ F.upperEnd code)
  else decide (F.lowerEnd code < x) && decide (x < F.upperEnd code)

/-- The decimal of at most `count` digits that reads back as the code and lies nearest
to it. -/
def decimalOfLength? (F : Format) (tie : Tie) (code count : Nat) : Option Decimal :=
  let x := F.magnitude code
  let exponent := floorLog10 x + 1 - count
  let grid := (10 : Rat) ^ exponent
  let below := (x / grid).floor.toNat
  let reads := fun n : Nat => F.readsBack code (n * grid)
  if reads below && reads (below + 1) then
    some ⟨(tie.round (x / grid)).toNat, exponent⟩
  else if reads below then some ⟨below, exponent⟩
  else if reads (below + 1) then some ⟨below + 1, exponent⟩
  else none

/-- The shortest decimal of a positive finite code. -/
def shortest (F : Format) (tie : Tie) (code : Nat) : Decimal :=
  ((List.range F.fractionBits).findSome? fun n => F.decimalOfLength? tie code (n + 1)).getD ⟨0, 0⟩

end Format

/-- How a number is written out. -/
structure Layout where
  /-- Which digits are taken of two that are as few and as near. -/
  tie : Tie
  /-- The exponents of the leading digit that are written without an exponent; `none` for all. -/
  positional : Option (Int × Int)
  /-- Whether an integral number keeps a final `.0`. -/
  keepsFraction : Bool
  /-- What a number that is not finite is written as: not a number, infinity, and its
  negative. -/
  notFinite : String × String × String

namespace Layout

/-- Numbers in documents: a tie goes to the even digit, exponents from -5 to 15 are
positional, and what is not finite has no numeral. -/
def document : Layout := ⟨.even, some (-5, 15), true, ("null", "null", "null")⟩

/-- Numbers in messages: a tie goes away from zero, and there is never an exponent and no
superfluous fraction. -/
def message : Layout := ⟨.greater, none, false, ("NaN", "inf", "-inf")⟩

/-- The digits without a sign and with a point, but with no exponent. -/
def positionalText (layout : Layout) (digits : List Char) (exponent : Int) : List Char :=
  if 0 ≤ exponent then
    digits ++ List.replicate exponent.toNat '0' ++ (if layout.keepsFraction then ['.', '0'] else [])
  else
    let places := (-exponent).toNat
    if places < digits.length then
      digits.take (digits.length - places) ++ '.' :: digits.drop (digits.length - places)
    else '0' :: '.' :: (List.replicate (places - digits.length) '0' ++ digits)

/-- One digit, a point and the others, and a signed exponent. -/
def scientificText (digits : List Char) (leading : Int) : List Char :=
  let fraction := digits.drop 1
  digits.take 1 ++ (if fraction.isEmpty then [] else '.' :: fraction) ++
    'e' :: (if leading < 0 then '-' else '+') :: Nat.toDigits 10 leading.natAbs

/-- A nonnegative decimal; its digits lose their trailing zeros first. -/
def decimalText (layout : Layout) (decimal : Decimal) : List Char :=
  let written := Nat.toDigits 10 decimal.digits
  let zeros := (written.reverse.takeWhile (· == '0')).length
  let digits := if decimal.digits = 0 then ['0'] else written.take (written.length - zeros)
  let exponent := if decimal.digits = 0 then 0 else decimal.exponent + zeros
  let leading := exponent + digits.length - 1
  match layout.positional with
  | none => layout.positionalText digits exponent
  | some (least, greatest) =>
    if least ≤ leading && leading ≤ greatest then layout.positionalText digits exponent
    else scientificText digits leading

end Layout

/-- The text of a number, shortest digits first found and then laid out. -/
def Binary.text {F : Format} (layout : Layout) (b : Binary F) : String :=
  let sign := if b.negative then ['-'] else []
  if b.isNotANumber then layout.notFinite.1
  else if b.isInfinite then if b.negative then layout.notFinite.2.2 else layout.notFinite.2.1
  else if b.isZero then String.ofList (sign ++ layout.decimalText ⟨0, 0⟩)
  else String.ofList (sign ++ layout.decimalText (F.shortest layout.tie b.code))

end FrameCourier.Number
