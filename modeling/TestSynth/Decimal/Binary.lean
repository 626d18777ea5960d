import TestSynth.Decimal.Power

/-!
# Binary floating-point values

Bit patterns of a binary interchange format, the value each stands for, and the
bit pattern nearest to a ratio of natural numbers.
-/

namespace TestSynth.Decimal

/-- Widths of the exponent and fraction fields below the sign bit. -/
structure BinaryFormat where
  exponentBits : Nat
  fractionBits : Nat
  deriving DecidableEq

namespace BinaryFormat

/-- The format of 64 bits. -/
def double : BinaryFormat :=
  { exponentBits := 11, fractionBits := 52 }

/-- The format of 32 bits. -/
def single : BinaryFormat :=
  { exponentBits := 8, fractionBits := 23 }

/-- The exponent field of the infinities and of the values that are no number. -/
def specialExponent (format : BinaryFormat) : Nat :=
  powerOfTwo format.exponentBits - 1

/-- The power of two that the last fraction bit of the smallest values weighs. -/
def lowestExponent (format : BinaryFormat) : Int :=
  2 - powerOfTwo (format.exponentBits - 1) - format.fractionBits

end BinaryFormat

/-- A non-negative value `significand * 2 ^ exponent`.  At a power of two the
neighbour below is only half as far away as the neighbour above. -/
structure Magnitude where
  significand : Nat
  exponent : Int
  narrowBelow : Bool
  deriving DecidableEq

namespace Magnitude

/-- The numerator of a magnitude written as a ratio. -/
def numerator (magnitude : Magnitude) : Nat :=
  scaled 2 magnitude.significand magnitude.exponent

/-- The denominator of a magnitude written as a ratio. -/
def denominator (magnitude : Magnitude) : Nat :=
  scaled 2 1 (-magnitude.exponent)

end Magnitude

/-- What a bit pattern stands for. -/
inductive Binary
  | notANumber
  | infinite (negative : Bool)
  | finite (negative : Bool) (magnitude : Magnitude)
  deriving DecidableEq

namespace BinaryFormat

/-- The value of a bit pattern. -/
def decode (format : BinaryFormat) (bits : Nat) : Binary :=
  let fraction := bits % powerOfTwo format.fractionBits
  let field := bits / powerOfTwo format.fractionBits % powerOfTwo format.exponentBits
  let negative := bits / powerOfTwo (format.fractionBits + format.exponentBits) % 2 == 1
  if field = format.specialExponent then
    if fraction = 0 then .infinite negative else .notANumber
  else if field = 0 then
    .finite negative
      { significand := fraction
        exponent := format.lowestExponent
        narrowBelow := false }
  else
    .finite negative
      { significand := powerOfTwo format.fractionBits + fraction
        exponent := format.lowestExponent + (field - 1)
        narrowBelow := fraction == 0 && 1 < field }

/-- The bits of the positive infinity. -/
def infinityBits (format : BinaryFormat) : Nat :=
  format.specialExponent * powerOfTwo format.fractionBits

/-- The weight of the sign bit. -/
def signBit (format : BinaryFormat) : Nat :=
  powerOfTwo (format.fractionBits + format.exponentBits)

end BinaryFormat

/-- The quotient rounded to the nearest natural number, a half to the even one. -/
def divideToNearestEven (numerator denominator : Nat) : Nat :=
  let quotient := numerator / denominator
  let remainder := numerator % denominator
  if 2 * remainder < denominator then quotient
  else if denominator < 2 * remainder then quotient + 1
  else quotient + quotient % 2

/-- The largest power of two that does not exceed a positive ratio. -/
def binaryExponent (numerator denominator : Nat) : Int :=
  let estimate : Int := (numerator.log2 : Int) - denominator.log2
  if scaled 2 numerator (-estimate) < scaled 2 denominator estimate then estimate - 1
  else estimate

namespace BinaryFormat

/-- The bits of the value nearest to a ratio, ties going to the even bit
pattern.  Counting bit patterns upwards from zero visits the values in order,
so a significand that rounds up to the next power of two carries into the
exponent field by itself. -/
def nearestBits (format : BinaryFormat) (numerator denominator : Nat) : Nat :=
  if numerator = 0 then 0
  else
    let exponent :=
      max format.lowestExponent
        (binaryExponent numerator denominator - format.fractionBits)
    let significand :=
      divideToNearestEven (scaled 2 numerator (-exponent)) (scaled 2 denominator exponent)
    let steps := (exponent - format.lowestExponent).toNat
    min format.infinityBits (significand + steps * powerOfTwo format.fractionBits)

/-- The bits of the value nearest to a signed ratio. -/
def nearestSignedBits
    (format : BinaryFormat) (negative : Bool) (numerator denominator : Nat) : Nat :=
  format.nearestBits numerator denominator + if negative then format.signBit else 0

/-- The bits of the value nearest to an integer. -/
def bitsOfInt (format : BinaryFormat) (value : Int) : Nat :=
  format.nearestSignedBits (value < 0) value.natAbs 1

/-- A value rounded to another format. -/
def round (format : BinaryFormat) : Binary → Binary
  | .notANumber => .notANumber
  | .infinite negative => .infinite negative
  | .finite negative magnitude =>
      format.decode
        (format.nearestSignedBits negative magnitude.numerator magnitude.denominator)

end BinaryFormat

end TestSynth.Decimal
