namespace LoopNest
namespace Number

/-!
# Double precision numbers

A floating point number is kept as its sixty-four bits in the binary64 format
of IEEE 754: a sign, eleven bits of exponent and fifty-two bits of fraction.
Nothing here computes with such numbers.  They are carried from the
declaration to the kernel, compared, and shown.

Two comparisons must be told apart.  Equality of the structure is equality of
bits.  The comparison `==` is the one of the format, for which a NaN differs
from everything and the two zeros are equal; data that holds such numbers
compares by `==` as well.
-/

/-- A binary64 number, by its bits. -/
structure Double where
  bits : UInt64
deriving DecidableEq

namespace Double

/-- Is the sign bit set? -/
def isNegative (x : Double) : Bool :=
  x.bits.toNat / Nat.pow 2 63 = 1

/-- The eleven bits of the exponent. -/
def exponentBits (x : Double) : Nat :=
  x.bits.toNat / Nat.pow 2 52 % Nat.pow 2 11

/-- The fifty-two bits of the fraction. -/
def fractionBits (x : Double) : Nat :=
  x.bits.toNat % Nat.pow 2 52

/-- Infinities and NaNs use the greatest exponent; all others are finite. -/
def isFinite (x : Double) : Bool :=
  x.exponentBits != 2047

def isNaN (x : Double) : Bool :=
  !x.isFinite && x.fractionBits != 0

/-- Zero of either sign. -/
def isZero (x : Double) : Bool :=
  x.exponentBits == 0 && x.fractionBits == 0

/-- The integral significand of a finite number.  Numbers with the least
exponent have no hidden leading bit. -/
def significand (x : Double) : Nat :=
  if x.exponentBits = 0 then x.fractionBits else Nat.pow 2 52 + x.fractionBits

/-- How often the unit `2 ^ (-1074)` of the format was doubled: the absolute
value of a finite number is `significand * 2 ^ (scale - 1074)`. -/
def scale (x : Double) : Nat :=
  x.exponentBits - 1

/-- Comparison of the format: a NaN differs from all, the zeros are equal. -/
instance : BEq Double where
  beq left right :=
    !left.isNaN && !right.isNaN && (left.bits == right.bits || (left.isZero && right.isZero))

end Double

end Number
end LoopNest
