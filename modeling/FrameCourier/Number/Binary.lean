import FrameCourier.Number.Width

/-!
# Binary floating-point numbers

A number is a sign together with a *magnitude code*: the exponent field and the
fraction field read as one natural number.  Codes grow with the magnitude they
stand for, the code of infinity follows the greatest finite one, and every
greater code is a not-a-number.  Arithmetic is exact on rationals followed by one
rounding to the nearest representable number, a tie going to the even code; no
machine arithmetic is involved.

The comparisons read the codes alone.  `Binary.totalKey` orders every number,
not-a-numbers included.
-/

namespace FrameCourier.Number

/-- The widths of the two fields of a binary interchange format. -/
structure Format where
  exponentBits : Nat
  fractionBits : Nat
  deriving DecidableEq, Repr

namespace Format

/-- The 32-bit format. -/
def single : Format := ⟨8, 23⟩

/-- The 64-bit format. -/
def double : Format := ⟨11, 52⟩

/-- The weight of the leading bit that normal numbers leave unwritten. -/
def leading (F : Format) : Nat := twoTo F.fractionBits

/-- How many magnitude codes there are. -/
def codes (F : Format) : Nat := twoTo (F.exponentBits + F.fractionBits)

/-- The code of infinity: an exponent field of ones and an empty fraction. -/
def infinityCode (F : Format) : Nat := (twoTo F.exponentBits - 1) * F.leading

/-- The exponent of two of the smallest positive number. -/
def leastExponent (F : Format) : Int :=
  2 - (twoTo (F.exponentBits - 1) : Int) - F.fractionBits

theorem infinityCode_lt_codes (F : Format) : F.infinityCode < F.codes := by
  unfold infinityCode codes leading
  rw [twoTo_add]
  exact Nat.mul_lt_mul_of_pos_right (Nat.sub_lt (twoTo_pos _) Nat.one_pos)
    (twoTo_pos _)

/-- The integer significand of a finite magnitude code. -/
def significand (F : Format) (code : Nat) : Nat :=
  if code < F.leading then code else F.leading + code % F.leading

/-- The exponent of two that a finite magnitude code gives its significand. -/
def exponent (F : Format) (code : Nat) : Int :=
  F.leastExponent + ((code / F.leading - 1 : Nat) : Int)

/-- The rational number that a finite magnitude code stands for. -/
def magnitude (F : Format) (code : Nat) : Rat :=
  (F.significand code : Rat) * (2 : Rat) ^ F.exponent code

end Format

/-- The greatest exponent `k` with `2 ^ k ≤ x`, for a positive `x`. -/
def floorLog2 (x : Rat) : Int :=
  let guess : Int := (x.num.natAbs.log2 : Int) - (x.den.log2 : Int)
  if x < (2 : Rat) ^ guess then guess - 1 else guess

/-- The nearest integer; halfway, the even one. -/
def roundHalfEven (x : Rat) : Int :=
  let below := x.floor
  let excess := x - (below : Rat)
  if excess < 1 / 2 then below
  else if excess = 1 / 2 then (if below % 2 = 0 then below else below + 1)
  else below + 1

/-- The nearest integer to a rational that is not negative; halfway, the greater. -/
def roundHalfUp (x : Rat) : Int := (x + 1 / 2).floor

/-- The code nearest to a rational that is not negative. -/
def Format.nearestCode (F : Format) (x : Rat) : Nat :=
  if x ≤ 0 then 0
  else
    let unit := max F.leastExponent (floorLog2 x - F.fractionBits)
    let count := (roundHalfEven (x / (2 : Rat) ^ unit)).toNat
    min F.infinityCode ((unit - F.leastExponent).toNat * F.leading + count)

theorem Format.nearestCode_lt_codes (F : Format) (x : Rat) : F.nearestCode x < F.codes := by
  unfold nearestCode
  split
  · exact twoTo_pos _
  · exact Nat.lt_of_le_of_lt (Nat.min_le_left _ _) F.infinityCode_lt_codes

/-- A floating-point number of format `F`. -/
structure Binary (F : Format) where
  negative : Bool
  code : Nat
  code_lt : code < F.codes
  deriving DecidableEq

/-- A 32-bit number. -/
abbrev Single := Binary Format.single

/-- A 64-bit number. -/
abbrev Double := Binary Format.double

namespace Binary

variable {F : Format}

instance : Repr (Binary F) where
  reprPrec b _ := if b.negative then f!"-{b.code}" else f!"{b.code}"

/-- The not-a-number that arithmetic produces. -/
def notANumber (F : Format) : Binary F :=
  ⟨false, Min.min (F.infinityCode + F.leading / 2) (F.codes - 1),
    Nat.lt_of_le_of_lt (Nat.min_le_right _ _) (Nat.sub_lt (twoTo_pos _) Nat.one_pos)⟩

/-- Infinity with the given sign. -/
def infinite (F : Format) (negative : Bool) : Binary F :=
  ⟨negative, F.infinityCode, F.infinityCode_lt_codes⟩

/-- Zero with the given sign. -/
def zero (F : Format) (negative : Bool) : Binary F :=
  ⟨negative, 0, twoTo_pos _⟩

/-- The number of a bit pattern; bits beyond the format's width are ignored. -/
def ofBits (F : Format) (bits : Nat) : Binary F :=
  ⟨decide (F.codes ≤ bits % (2 * F.codes)), bits % F.codes, Nat.mod_lt _ (twoTo_pos _)⟩

/-- The bit pattern: the sign bit above the magnitude code. -/
def toBits (b : Binary F) : Nat := if b.negative then F.codes + b.code else b.code

def isNotANumber (b : Binary F) : Bool := decide (F.infinityCode < b.code)

def isInfinite (b : Binary F) : Bool := decide (b.code = F.infinityCode)

def isFinite (b : Binary F) : Bool := decide (b.code < F.infinityCode)

def isZero (b : Binary F) : Bool := decide (b.code = 0)

/-- The rational number that a finite number stands for; the others read as zero. -/
def value (b : Binary F) : Rat :=
  if F.infinityCode ≤ b.code then 0
  else if b.negative then -F.magnitude b.code else F.magnitude b.code

/-- The number nearest to `x`; `negativeZero` is the sign of an exact zero. -/
def ofRat (F : Format) (negativeZero : Bool) (x : Rat) : Binary F :=
  ⟨if x = 0 then negativeZero else decide (x < 0), F.nearestCode (if x < 0 then -x else x),
    F.nearestCode_lt_codes _⟩

/-- The number nearest to an integer. -/
def ofInt (F : Format) (n : Int) : Binary F := ofRat F false (n : Rat)

/-- The nearest number of another format. -/
def convert (G : Format) (b : Binary F) : Binary G :=
  if b.isNotANumber then notANumber G
  else if b.isInfinite then infinite G b.negative
  else ofRat G b.negative b.value

def neg (b : Binary F) : Binary F := ⟨!b.negative, b.code, b.code_lt⟩

def add (a b : Binary F) : Binary F :=
  if a.isNotANumber || b.isNotANumber then notANumber F
  else if a.isInfinite then
    if b.isInfinite && a.negative != b.negative then notANumber F else a
  else if b.isInfinite then b
  else ofRat F (a.negative && b.negative) (a.value + b.value)

def sub (a b : Binary F) : Binary F := a.add b.neg

def mul (a b : Binary F) : Binary F :=
  let negative := a.negative != b.negative
  if a.isNotANumber || b.isNotANumber then notANumber F
  else if a.isInfinite || b.isInfinite then
    if a.isZero || b.isZero then notANumber F else infinite F negative
  else ofRat F negative (a.value * b.value)

def div (a b : Binary F) : Binary F :=
  let negative := a.negative != b.negative
  if a.isNotANumber || b.isNotANumber then notANumber F
  else if a.isInfinite then
    if b.isInfinite then notANumber F else infinite F negative
  else if b.isInfinite then zero F negative
  else if b.isZero then
    if a.isZero then notANumber F else infinite F negative
  else ofRat F negative (a.value / b.value)

instance : Neg (Binary F) := ⟨neg⟩
instance : Add (Binary F) := ⟨add⟩
instance : Sub (Binary F) := ⟨sub⟩
instance : Mul (Binary F) := ⟨mul⟩
instance : Div (Binary F) := ⟨div⟩

/-- The signed code: two numbers compare as their keys do, both zeros alike. -/
def key (b : Binary F) : Int := if b.negative then -(b.code : Int) else b.code

/-- A key for the total order: below all positive numbers the negative zero, and
not-a-numbers beyond the infinities of their sign. -/
def totalKey (b : Binary F) : Int := if b.negative then -(b.code : Int) - 1 else b.code

/-- Whether `a` is less than `b`; a not-a-number is less than nothing. -/
def lt (a b : Binary F) : Bool :=
  !a.isNotANumber && !b.isNotANumber && decide (a.key < b.key)

/-- Whether `a` is at most `b`; a not-a-number is comparable with nothing. -/
def le (a b : Binary F) : Bool :=
  !a.isNotANumber && !b.isNotANumber && decide (a.key ≤ b.key)

/-- The greater number; a not-a-number gives way to the other argument. -/
def max (a b : Binary F) : Binary F :=
  if a.isNotANumber then b else if b.isNotANumber then a else if a.lt b then b else a

/-- The smaller number; a not-a-number gives way to the other argument. -/
def min (a b : Binary F) : Binary F :=
  if a.isNotANumber then b else if b.isNotANumber then a else if b.lt a then b else a

/-- The nearest number between `low` and `high`; a not-a-number stays itself. -/
def clamp (b low high : Binary F) : Binary F :=
  if b.lt low then low else if high.lt b then high else b

/-- The nearest integral number, halfway away from zero. -/
def round (b : Binary F) : Binary F :=
  if b.isFinite then
    let count := roundHalfUp (F.magnitude b.code)
    ofRat F b.negative ((if b.negative then -count else count : Int) : Rat)
  else b

/-- The integer part, cut to the range from `low` to `high`; zero for a not-a-number. -/
def toIntWithin (low high : Int) (b : Binary F) : Int :=
  if b.isNotANumber then 0
  else if b.isInfinite then (if b.negative then low else high)
  else
    let whole := (F.magnitude b.code).floor
    Max.max low (Min.min high (if b.negative then -whole else whole))

end Binary

end FrameCourier.Number
