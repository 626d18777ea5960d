/-!
# Powers

Powers of natural numbers by which numerators and denominators are scaled.
-/

namespace TestSynth.Decimal

def powerOfTwo (exponent : Nat) : Nat :=
  Nat.pow 2 exponent

/-- A number times a power of a base.  A power with a negative exponent counts as
one, since it scales the other side of a ratio. -/
def scaled (base number : Nat) (exponent : Int) : Nat :=
  number * Nat.pow base exponent.toNat

end TestSynth.Decimal
