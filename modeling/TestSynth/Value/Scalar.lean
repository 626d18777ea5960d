import TestSynth.Descriptor.Basic
import TestSynth.Decimal.Layout

/-!
# Scalars

Resolved values of primitive type: integers of 64 bits, reals by their bit
pattern, and booleans.  Two reals are equal exactly if their bits are, so a
value that is no number equals itself and the two zeros differ.
-/

namespace TestSynth

inductive Scalar
  | integer (value : Int64)
  | real (bits : UInt64)
  | boolean (value : Bool)
  deriving DecidableEq

/-- The real nearest to an integer. -/
def realOfInteger (value : Int64) : UInt64 :=
  .ofNat (Decimal.BinaryFormat.double.bitsOfInt value.toInt)

/-- The value a real's bits stand for. -/
def realValue (bits : UInt64) : Decimal.Binary :=
  Decimal.BinaryFormat.double.decode bits.toNat

/-- Reals in source text and in messages are written with the fewest digits that
identify them, with a point from a ten-thousandth up to below `10 ^ 16`. -/
def plainLayout : Decimal.Layout :=
  { lowest := -4, highest := 16, plus := "", tie := .upward }

/-- The text of a real in messages. -/
def realText (bits : UInt64) : String :=
  match realValue bits with
  | .notANumber => "NaN"
  | .infinite negative => if negative then "-inf" else "inf"
  | .finite negative magnitude => plainLayout.finite negative magnitude

def booleanText (value : Bool) : String :=
  if value then "true" else "false"

namespace Scalar

def family : Scalar → Family
  | .integer _ => .integer
  | .real _ => .real
  | .boolean _ => .boolean

/-- The scalar as a value of another family.  Solvers know booleans as integers,
of which only one is true; an integer may stand where a real is declared. -/
def toFamily? : Family → Scalar → Option Scalar
  | .integer, .integer value => some (.integer value)
  | .real, .real bits => some (.real bits)
  | .real, .integer value => some (.real (realOfInteger value))
  | .boolean, .boolean value => some (.boolean value)
  | .boolean, .integer value => some (.boolean (value == 1))
  | _, _ => none

/-- The scalar as a value of a primitive type, not yet narrowed to its width. -/
def coerce? (scalar : Scalar) (primitive : Primitive) : Option Scalar :=
  toFamily? primitive.family scalar

def integer? : Scalar → Option Int64
  | .integer value => some value
  | _ => none

def real? : Scalar → Option UInt64
  | .real bits => some bits
  | _ => none

def boolean? : Scalar → Option Bool
  | .boolean value => some value
  | _ => none

/-- The scalar in messages. -/
def text : Scalar → String
  | .integer value => toString value.toInt
  | .real bits => realText bits
  | .boolean value => booleanText value

theorem family_of_toFamily? {family : Family} {scalar result : Scalar}
    (converted : toFamily? family scalar = some result) :
    result.family = family := by
  cases family <;> cases scalar <;> simp [toFamily?] at converted <;>
    subst converted <;> rfl

end Scalar

end TestSynth
