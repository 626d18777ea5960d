import TestSynth.Decimal.Shortest

/-!
# Reading decimals

The bit pattern nearest to a decimal.  Decimals far outside the range of a
format are settled by their number of digits alone.
-/

namespace TestSynth.Decimal

namespace BinaryFormat

/-- The bits of the value nearest to a non-negative decimal. -/
def bitsOfDigits (format : BinaryFormat) (digits : Digits) : Nat :=
  let places : Int := (Nat.toDigits 10 digits.coefficient).length
  let leading := digits.exponent + places
  let bound : Int := powerOfTwo format.exponentBits + format.fractionBits
  if digits.coefficient = 0 then 0
  else if bound < leading then format.infinityBits
  else if leading < -bound then 0
  else
    format.nearestBits (scaled 10 digits.coefficient digits.exponent)
      (scaled 10 1 (-digits.exponent))

end BinaryFormat

end TestSynth.Decimal
