/-!
Binary floating-point numbers of 64 bits, held as their bits. Arithmetic is exact arithmetic on
natural numbers followed by one rounding to the nearest number, a tie going to the even neighbour.
Magnitudes are counted in units of 2^-1074, the least positive number.
-/

namespace BindPlan

/-- The power of two with a given exponent. -/
def twoTo (exponent : Nat) : Nat := Nat.pow 2 exponent

/-- The power of ten with a given exponent. -/
def tenTo (exponent : Nat) : Nat := Nat.pow 10 exponent

/-- A binary floating-point number, told apart from others by its bits. -/
structure Binary64 where
  bits : UInt64
deriving DecidableEq, Repr

namespace Binary64

/-- The nearest whole number to a quotient, a tie going to the even neighbour. -/
def roundQuotient (numerator denominator : Nat) : Nat :=
  let quotient := numerator / denominator
  let remainder := numerator % denominator
  if 2 * remainder < denominator then quotient
  else if denominator < 2 * remainder then quotient + 1
  else if quotient % 2 = 0 then quotient else quotient + 1

/-- The bits that set the exponent field to all ones, the magnitude of infinity. -/
def infiniteMagnitude : Nat := 2047 * twoTo 52

def signBit (negative : Bool) : Nat := if negative then twoTo 63 else 0

/-- The bits of the number nearest to a magnitude. A significand that rounds up to 2^53 carries
into the exponent field, which is the number meant, and what lies above the field is infinite. -/
def nearestMagnitude (numerator denominator : Nat) : Nat :=
  let units := numerator * twoTo 1074
  let shift := (units / denominator).log2 - 52
  min infiniteMagnitude (shift * twoTo 52 + roundQuotient units (denominator * twoTo shift))

/-- The number nearest to a quotient with the given sign. -/
def nearest (negative : Bool) (numerator denominator : Nat) : Binary64 :=
  ⟨UInt64.ofNat (signBit negative + nearestMagnitude numerator denominator)⟩

/-- The number nearest to an integer. -/
def ofInt (integer : Int) : Binary64 := nearest (integer < 0) integer.natAbs 1

def isNegative (number : Binary64) : Bool := twoTo 63 ≤ number.bits.toNat

def exponentField (number : Binary64) : Nat := number.bits.toNat / twoTo 52 % 2048

def fractionField (number : Binary64) : Nat := number.bits.toNat % twoTo 52

def isNaN (number : Binary64) : Bool := number.exponentField == 2047 && number.fractionField != 0

def isInfinite (number : Binary64) : Bool :=
  number.exponentField == 2047 && number.fractionField == 0

/-- The significand, which has an implicit leading bit unless the exponent field is zero. -/
def significand (number : Binary64) : Nat :=
  if number.exponentField = 0 then number.fractionField else twoTo 52 + number.fractionField

/-- The number of places that the significand is shifted to the left of the least unit. -/
def shift (number : Binary64) : Nat := number.exponentField - 1

/-- The magnitude of a finite number in units of 2^-1074. -/
def units (number : Binary64) : Nat := number.significand * twoTo number.shift

/-- The product of two finite numbers, rounded once. -/
def times (first second : Binary64) : Binary64 :=
  nearest (first.isNegative != second.isNegative) (first.units * second.units) (twoTo 2148)

/-- The quotient of two finite numbers, rounded once. The divisor is not zero. -/
def dividedBy (first second : Binary64) : Binary64 :=
  nearest (first.isNegative != second.isNegative) first.units second.units

def negate (number : Binary64) : Binary64 := ⟨number.bits ^^^ 0x8000000000000000⟩

/-- The number with the value of a 32-bit one, given by its bits. A quiet NaN keeps its payload. -/
def ofBinary32 (bits : UInt32) : Binary64 :=
  let sign := bits.toNat / twoTo 31
  let exponent := bits.toNat / twoTo 23 % 256
  let fraction := bits.toNat % twoTo 23
  if exponent = 255 then
    let quiet := if fraction = 0 then 0 else twoTo 51 ||| fraction * twoTo 29
    ⟨UInt64.ofNat (signBit (sign = 1) + infiniteMagnitude + quiet)⟩
  else if exponent = 0 then nearest (sign = 1) fraction (twoTo 149)
  else nearest (sign = 1) ((twoTo 23 + fraction) * twoTo (exponent - 1)) (twoTo 149)

end Binary64

end BindPlan
