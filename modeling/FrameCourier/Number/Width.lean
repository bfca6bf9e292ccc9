/-!
# Widths

Words hold a fixed number of bits.  Their bounds are written out here, and so are the two
kinds of powers that floating-point formats and decimals are made of.
-/

namespace FrameCourier.Number

/-- The greatest natural number of 32 bits. -/
def greatestWord32 : Nat := 0xFFFFFFFF

/-- The greatest natural number of 64 bits. -/
def greatestWord64 : Nat := 0xFFFFFFFFFFFFFFFF

/-- The least integer of 32 bits with a sign. -/
def leastInt32 : Int := -0x80000000

/-- The greatest integer of 32 bits with a sign. -/
def greatestInt32 : Int := 0x7FFFFFFF

/-- The least integer of 64 bits with a sign. -/
def leastInt64 : Int := -0x8000000000000000

/-- The greatest integer of 64 bits with a sign. -/
def greatestInt64 : Int := 0x7FFFFFFFFFFFFFFF

/-- The number of values that `bits` bits have. -/
def twoTo (bits : Nat) : Nat := Nat.pow 2 bits

/-- The number of values that `digits` decimal digits have. -/
def tenTo (digits : Nat) : Nat := Nat.pow 10 digits

theorem twoTo_pos (bits : Nat) : 0 < twoTo bits := Nat.two_pow_pos bits

theorem twoTo_add (m n : Nat) : twoTo (m + n) = twoTo m * twoTo n := Nat.pow_add 2 m n

theorem tenTo_pos (digits : Nat) : 0 < tenTo digits := Nat.pow_pos (by decide)

theorem tenTo_add (m n : Nat) : tenTo (m + n) = tenTo m * tenTo n := Nat.pow_add 10 m n

end FrameCourier.Number
