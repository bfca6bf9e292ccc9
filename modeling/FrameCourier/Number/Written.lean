import FrameCourier.Number.Decimal

/-!
# Written numbers

Integers are written with decimal digits after an optional sign.  Other numbers may have a
point, with digits before or after it, and an exponent; infinity and the lack of a number
are written as words in either case of letters.  A written number is read as the number of
the format that is nearest to it.
-/

namespace FrameCourier.Number

/-- Whether a text starts with a minus, and the text after its sign. -/
def signOf : List Char → Bool × List Char
  | '-' :: rest => (true, rest)
  | '+' :: rest => (false, rest)
  | rest => (false, rest)

/-- The number that digits are written for in a base; `none` for other characters, or no
digit at all. -/
def naturalOf? (base : Nat) (digits : List Char) : Option Nat :=
  let value? := fun (c : Char) =>
    let d :=
      if c.isDigit then c.toNat - '0'.toNat
      else if c.isLower then c.toNat - 'a'.toNat + 10
      else if c.isUpper then c.toNat - 'A'.toNat + 10
      else base
    if d < base then some d else none
  if digits.isEmpty then none
  else (digits.mapM value?).map (·.foldl (fun value d => value * base + d) 0)

/-- The integer that a text is, if it is one of `low` to `high`. -/
def integerWithin? (low high : Int) (base : Nat) (text : List Char) : Option Int := do
  let (negative, digits) := signOf text
  let size ← naturalOf? base digits
  let value : Int := if negative then -size else size
  if low ≤ value && value ≤ high then some value else none

/-- The integer from zero to `high` that a text is; it has no minus. -/
def naturalWithin? (high : Nat) (text : List Char) : Option Nat := do
  let (negative, digits) := signOf text
  let value ← naturalOf? 10 digits
  if negative || high < value then none else some value

/-- The exponent that ends a number; zero if nothing is there. -/
def exponentOf? : List Char → Option Int
  | [] => some 0
  | mark :: text =>
    if mark = 'e' || mark = 'E' then
      let (negative, digits) := signOf text
      (naturalOf? 10 digits).map fun (size : Nat) => if negative then -(size : Int) else size
    else none

/-- The decimal that a text without a sign is. -/
def decimalOf? (text : List Char) : Option Decimal := do
  let whole := text.takeWhile Char.isDigit
  let (fraction, rest) := match text.dropWhile Char.isDigit with
    | '.' :: rest => (rest.takeWhile Char.isDigit, rest.dropWhile Char.isDigit)
    | rest => ([], rest)
  let digits ← naturalOf? 10 (whole ++ fraction)
  let exponent ← exponentOf? rest
  return ⟨digits, exponent - fraction.length⟩

/-- The number nearest to a decimal.  No number of the format has as many places, before
the point or after it, as `reach`. -/
def Binary.ofDecimal (F : Format) (negative : Bool) (decimal : Decimal) : Binary F :=
  let reach : Int := twoTo F.exponentBits + F.fractionBits
  let leading := decimal.exponent + decimalLength decimal.digits
  if decimal.digits = 0 || leading < -reach then Binary.zero F negative
  else if reach < leading then Binary.infinite F negative
  else
    let size := (decimal.digits : Rat) * (10 : Rat) ^ decimal.exponent
    Binary.ofRat F negative (if negative then -size else size)

/-- The number that a text is. -/
def Binary.read? (F : Format) (text : String) : Option (Binary F) :=
  let (negative, size) := signOf text.toList
  let word := String.ofList (size.map Char.toLower)
  if word = "inf" || word = "infinity" then some (Binary.infinite F negative)
  else if word = "nan" then some (Binary.notANumber F)
  else (decimalOf? size).map (Binary.ofDecimal F negative)

end FrameCourier.Number
