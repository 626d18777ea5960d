/-!
# Ranges of code points

A character class is a list of closed code point ranges.
-/

namespace TestSynth.Text

/-- A character class, as closed ranges of code points. -/
abbrev Ranges := List (Nat × Nat)

/-- Whether a character lies in one of the ranges. -/
def Ranges.contains (ranges : Ranges) (character : Char) : Bool :=
  ranges.any fun (low, high) => low ≤ character.toNat && character.toNat ≤ high

end TestSynth.Text
