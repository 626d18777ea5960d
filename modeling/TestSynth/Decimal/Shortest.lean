import TestSynth.Decimal.Binary

/-!
# Shortest decimals

The decimal with the fewest digits among those that read back to a binary
value, and of these the nearest one.
-/

namespace TestSynth.Decimal

/-- The number `coefficient * 10 ^ exponent`. -/
structure Digits where
  coefficient : Nat
  exponent : Int
  deriving DecidableEq

/-- Which of two equally near decimals is taken. -/
inductive Tie
  | toEven
  | upward
  deriving DecidableEq

namespace Digits

/-- Compares a decimal with `count * 2 ^ power`, exactly. -/
def compareBinary (digits : Digits) (count : Nat) (power : Int) : Ordering :=
  compare
    (scaled 2 (scaled 10 digits.coefficient digits.exponent) (-power))
    (scaled 10 (scaled 2 count power) (-digits.exponent))

end Digits

namespace Magnitude

/-- Whether a decimal lies among the reals that round to the magnitude: between
the halfway points to its two neighbours, which belong to it exactly if its
significand is even. -/
def readsBack (magnitude : Magnitude) (digits : Digits) : Bool :=
  let below := 4 * magnitude.significand - if magnitude.narrowBelow then 1 else 2
  let above := 4 * magnitude.significand + 2
  let power := magnitude.exponent - 2
  let closed := magnitude.significand % 2 == 0
  let fromBelow := digits.compareBinary below power
  let fromAbove := digits.compareBinary above power
  (fromBelow == .gt || (closed && fromBelow == .eq)) &&
    (fromAbove == .lt || (closed && fromAbove == .eq))

/-- Whether the magnitude is below a power of ten. -/
def belowPowerOfTen (magnitude : Magnitude) (power : Int) : Bool :=
  scaled 10 magnitude.numerator (-power) < scaled 10 magnitude.denominator power

/-- The least power of ten above a positive magnitude.  The binary logarithm
gives a lower estimate that is at most two too small. -/
def decimalScale (magnitude : Magnitude) : Int :=
  let binary : Int := magnitude.exponent + magnitude.significand.log2
  let estimate := binary * 30103 / 100000
  if magnitude.belowPowerOfTen estimate then estimate
  else if magnitude.belowPowerOfTen (estimate + 1) then estimate + 1
  else estimate + 2

/-- The nearer of the two points of the grid `10 ^ exponent` around the
magnitude that read back, if one does. -/
def onGrid? (magnitude : Magnitude) (tie : Tie) (exponent : Int) : Option Digits :=
  let numerator := scaled 10 magnitude.numerator (-exponent)
  let denominator := scaled 10 magnitude.denominator exponent
  let floor := numerator / denominator
  let lower : Digits := { coefficient := floor, exponent := exponent }
  let upper : Digits := { coefficient := floor + 1, exponent := exponent }
  match magnitude.readsBack lower, magnitude.readsBack upper with
  | false, false => none
  | true, false => some lower
  | false, true => some upper
  | true, true =>
      match compare (2 * numerator) ((2 * floor + 1) * denominator) with
      | .lt => some lower
      | .gt => some upper
      | .eq =>
          match tie with
          | .upward => some upper
          | .toEven => some (if floor % 2 = 0 then lower else upper)

/-- The exact decimal value of a magnitude. -/
def exactDigits (magnitude : Magnitude) : Digits :=
  { coefficient := scaled 5 magnitude.numerator (-magnitude.exponent)
    exponent := min magnitude.exponent 0 }

/-- Tries grids from the coarsest on; `fuel` more grids are tried. -/
def searchGrids (magnitude : Magnitude) (tie : Tie) : Nat → Int → Digits
  | 0, _ => magnitude.exactDigits
  | fuel + 1, exponent =>
      (magnitude.onGrid? tie exponent).getD (magnitude.searchGrids tie fuel (exponent - 1))

/-- The shortest decimal of a positive magnitude.  Seventeen digits tell any two
values of 64 bits apart. -/
def shortest (magnitude : Magnitude) (tie : Tie) : Digits :=
  magnitude.searchGrids tie 17 (magnitude.decimalScale - 1)

end Magnitude

end TestSynth.Decimal
