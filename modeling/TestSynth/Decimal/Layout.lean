import TestSynth.Decimal.Shortest

/-!
# Layout of decimals

Where the point of a shortest decimal is written, and when an exponent is
written instead.
-/

namespace TestSynth.Decimal

/-- The choices a text format makes in writing a finite number. -/
structure Layout where
  /-- Least exponent of the leading digit that is written with a point only. -/
  lowest : Int
  /-- Least exponent of the leading digit that is again written as a power. -/
  highest : Int
  /-- Text between the mark of a power and a non-negative exponent. -/
  plus : String
  tie : Tie

def zeros (count : Nat) : List Char :=
  List.replicate count '0'

/-- Drops the zeros at the end of a coefficient. -/
def stripZeros (digits : List Char) : List Char :=
  (digits.reverse.dropWhile (· == '0')).reverse

/-- Writes the digits with a point only; `leading` is the exponent of the first
digit.  There is at least one digit on both sides of the point. -/
def pointed (digits : List Char) (leading : Int) : List Char :=
  if leading < 0 then
    '0' :: '.' :: zeros (-leading - 1).toNat ++ digits
  else
    let whole := leading.toNat + 1
    if digits.length ≤ whole then
      digits ++ zeros (whole - digits.length) ++ ['.', '0']
    else
      digits.take whole ++ '.' :: digits.drop whole

namespace Layout

/-- Writes the digits as one digit, further digits after a point if there are
any, and a power of ten. -/
def scientific (layout : Layout) (digits : List Char) (leading : Int) : List Char :=
  let mantissa :=
    match digits with
    | [] => []
    | [digit] => [digit]
    | digit :: rest => digit :: '.' :: rest
  let sign := if leading < 0 then [] else layout.plus.toList
  mantissa ++ 'e' :: sign ++ (toString leading).toList

/-- The text of a positive decimal. -/
def digits (layout : Layout) (value : Digits) : List Char :=
  let written := (toString value.coefficient).toList
  let leading := value.exponent + written.length - 1
  let significant := stripZeros written
  if layout.lowest ≤ leading ∧ leading < layout.highest then
    pointed significant leading
  else
    layout.scientific significant leading

/-- The text of a finite value: its sign and its shortest decimal. -/
def finite (layout : Layout) (negative : Bool) (magnitude : Magnitude) : String :=
  let sign := if negative then "-" else ""
  if magnitude.significand = 0 then sign ++ "0.0"
  else sign ++ String.ofList (layout.digits (magnitude.shortest layout.tie))

end Layout

end TestSynth.Decimal
