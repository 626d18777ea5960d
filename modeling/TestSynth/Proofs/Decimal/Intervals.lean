import Mathlib.Algebra.Order.Field.Power
import Mathlib.Data.Rat.Cast.Order
import Mathlib.Order.Compare
import Mathlib.Tactic.Linarith
import Mathlib.Tactic.Positivity
import Mathlib.Tactic.Ring
import TestSynth.Decimal.Shortest

/-!
# What shortest decimals stand for

Decimals and binary magnitudes as rational numbers.  The shortest decimal of a magnitude
is among the numbers that round to it.
-/

namespace TestSynth.Decimal

variable {base number numerator denominator : Nat} {exponent : Int}

theorem cast_scaled (base number : Nat) (exponent : Int) :
    (scaled base number exponent : ℚ) = number * (base : ℚ) ^ exponent.toNat := by
  rw [scaled, Nat.pow_eq, Nat.cast_mul, Nat.cast_pow]

/-- A power with a negative exponent counts on the other side of a ratio. -/
theorem cast_scaled_zpow (positive : 0 < base) (number : Nat) (exponent : Int) :
    (scaled base number exponent : ℚ) =
      number * (base : ℚ) ^ exponent * (base : ℚ) ^ (-exponent).toNat := by
  have nonzero : (base : ℚ) ≠ 0 := Nat.cast_ne_zero.mpr positive.ne'
  have power : (base : ℚ) ^ exponent.toNat =
      (base : ℚ) ^ exponent * (base : ℚ) ^ (-exponent).toNat := by
    rw [← zpow_natCast, ← zpow_natCast, ← zpow_add₀ nonzero]
    congr 1
    omega
  rw [cast_scaled, power, mul_assoc]

theorem scaled_pos (positive : 0 < base) (some : 0 < number) (exponent : Int) :
    0 < scaled base number exponent :=
  Nat.mul_pos some (Nat.pow_pos positive)

theorem scaled_div_scaled (positive : 0 < base) (numerator denominator : Nat)
    (exponent : Int) :
    (scaled base numerator (-exponent) : ℚ) / scaled base denominator exponent =
      numerator / denominator / (base : ℚ) ^ exponent := by
  have shared : (base : ℚ) ^ (-exponent).toNat ≠ 0 :=
    pow_ne_zero _ (Nat.cast_ne_zero.mpr positive.ne')
  rw [cast_scaled, cast_scaled_zpow positive, mul_div_mul_right _ _ shared, div_div]

/-- The number a decimal stands for. -/
def Digits.value (digits : Digits) : ℚ :=
  digits.coefficient * 10 ^ digits.exponent

namespace Magnitude

def value (magnitude : Magnitude) : ℚ :=
  magnitude.significand * 2 ^ magnitude.exponent

/-- Halfway to the neighbour below. -/
def lower (magnitude : Magnitude) : ℚ :=
  (4 * magnitude.significand - if magnitude.narrowBelow then 1 else 2 : Nat) *
    2 ^ (magnitude.exponent - 2)

/-- Halfway to the neighbour above. -/
def upper (magnitude : Magnitude) : ℚ :=
  (4 * magnitude.significand + 2 : Nat) * 2 ^ (magnitude.exponent - 2)

/-- A number rounds to a magnitude: it is between the halfway points, and on one of them
only if the significand is even. -/
structure Takes (magnitude : Magnitude) (number : ℚ) : Prop where
  lower_le : magnitude.lower ≤ number
  le_upper : number ≤ magnitude.upper
  inside : magnitude.significand % 2 = 1 →
    magnitude.lower < number ∧ number < magnitude.upper

end Magnitude

namespace Digits

variable {digits : Digits} {count : Nat} {power : Int}

/-- What is compared are the two numbers on one scale. -/
theorem exists_scale (digits : Digits) (count : Nat) (power : Int) :
    ∃ scale : ℚ, 0 < scale ∧
      (scaled 2 (scaled 10 digits.coefficient digits.exponent) (-power) : ℚ) =
        digits.value * scale ∧
      (scaled 10 (scaled 2 count power) (-digits.exponent) : ℚ) =
        count * 2 ^ power * scale := by
  refine ⟨10 ^ (-digits.exponent).toNat * 2 ^ (-power).toNat, by positivity, ?_, ?_⟩
  · rw [cast_scaled, cast_scaled_zpow (by decide), value]
    push_cast
    ring
  · rw [cast_scaled, cast_scaled_zpow (by decide)]
    push_cast
    ring

theorem compareBinary_eq_lt_iff :
    digits.compareBinary count power = .lt ↔ digits.value < count * 2 ^ power := by
  obtain ⟨scale, positive, left, right⟩ := exists_scale digits count power
  rw [compareBinary, compare_lt_iff_lt, ← Nat.cast_lt (α := ℚ), left, right,
    mul_lt_mul_iff_left₀ positive]

theorem compareBinary_eq_gt_iff :
    digits.compareBinary count power = .gt ↔ count * 2 ^ power < digits.value := by
  obtain ⟨scale, positive, left, right⟩ := exists_scale digits count power
  rw [compareBinary, compare_gt_iff_gt, ← Nat.cast_lt (α := ℚ), left, right,
    mul_lt_mul_iff_left₀ positive]

theorem compareBinary_eq_eq_iff :
    digits.compareBinary count power = .eq ↔ digits.value = count * 2 ^ power := by
  obtain ⟨scale, positive, left, right⟩ := exists_scale digits count power
  rw [compareBinary, compare_eq_iff_eq, ← Nat.cast_inj (R := ℚ), left, right,
    mul_left_inj' positive.ne']

end Digits

namespace Magnitude

variable {magnitude : Magnitude} {digits : Digits} {tie : Tie}

theorem takes_of_readsBack (reads : magnitude.readsBack digits = true) :
    magnitude.Takes digits.value := by
  simp only [readsBack, Bool.and_eq_true, Bool.or_eq_true, beq_iff_eq,
    Digits.compareBinary_eq_lt_iff, Digits.compareBinary_eq_gt_iff,
    Digits.compareBinary_eq_eq_iff] at reads
  obtain ⟨below, above⟩ := reads
  refine ⟨?_, ?_, fun odd => ⟨?_, ?_⟩⟩
  · rcases below with below | ⟨_, same⟩
    · exact below.le
    · exact same.ge
  · rcases above with above | ⟨_, same⟩
    · exact above.le
    · exact same.le
  · rcases below with below | ⟨even, _⟩
    · exact below
    · omega
  · rcases above with above | ⟨even, _⟩
    · exact above
    · omega

theorem value_eq_quarters (magnitude : Magnitude) :
    magnitude.value = (4 * magnitude.significand : Nat) * 2 ^ (magnitude.exponent - 2) := by
  rw [value, zpow_sub₀ (by norm_num)]
  push_cast
  ring

theorem lower_lt_value (positive : 0 < magnitude.significand) :
    magnitude.lower < magnitude.value := by
  have fewer : (4 * magnitude.significand - if magnitude.narrowBelow then 1 else 2) <
      4 * magnitude.significand := by
    split <;> omega
  rw [lower, value_eq_quarters]
  gcongr

theorem value_lt_upper (magnitude : Magnitude) : magnitude.value < magnitude.upper := by
  rw [upper, value_eq_quarters]
  gcongr
  exact Nat.lt_add_of_pos_right Nat.two_pos

theorem takes_value (positive : 0 < magnitude.significand) :
    magnitude.Takes magnitude.value :=
  have below := lower_lt_value positive
  have above := value_lt_upper magnitude
  ⟨below.le, above.le, fun _ => ⟨below, above⟩⟩

theorem takes_zero (none : magnitude.significand = 0) : magnitude.Takes 0 := by
  refine ⟨?_, ?_, fun odd => ?_⟩
  · rw [lower, none, Nat.mul_zero, Nat.zero_sub, Nat.cast_zero, zero_mul]
  · rw [upper]
    positivity
  · omega

theorem readsBack_of_onGrid? {exponent : Int}
    (found : magnitude.onGrid? tie exponent = some digits) :
    magnitude.readsBack digits = true := by
  dsimp only [onGrid?] at found
  split at found
  case h_1 => cases found
  case h_2 lowerReads _ => exact Option.some.inj found ▸ lowerReads
  case h_3 _ upperReads => exact Option.some.inj found ▸ upperReads
  case h_4 lowerReads upperReads =>
    split at found
    case h_1 => exact Option.some.inj found ▸ lowerReads
    case h_2 => exact Option.some.inj found ▸ upperReads
    case h_3 =>
      cases tie with
      | upward => exact Option.some.inj found ▸ upperReads
      | toEven =>
          rw [← Option.some.inj found]
          split
          · exact lowerReads
          · exact upperReads

theorem value_exactDigits (magnitude : Magnitude) :
    magnitude.exactDigits.value = magnitude.value := by
  have least : min magnitude.exponent 0 = -((-magnitude.exponent).toNat : Int) := by omega
  have tens : (2 : ℚ) ^ (-magnitude.exponent).toNat * 5 ^ (-magnitude.exponent).toNat =
      10 ^ (-magnitude.exponent).toNat := by
    rw [← mul_pow]
    norm_num
  simp only [Digits.value, exactDigits, value, numerator, least]
  rw [cast_scaled, cast_scaled_zpow Nat.two_pos, zpow_neg, zpow_natCast, mul_assoc _ _ (_ ^ _)]
  push_cast
  rw [tens, mul_inv_cancel_right₀]
  exact pow_ne_zero _ (by norm_num)

theorem takes_searchGrids (positive : 0 < magnitude.significand) (fuel : Nat)
    (exponent : Int) : magnitude.Takes (magnitude.searchGrids tie fuel exponent).value := by
  induction fuel generalizing exponent with
  | zero =>
      rw [searchGrids, value_exactDigits]
      exact takes_value positive
  | succ fuel ih =>
      rw [searchGrids]
      cases found : magnitude.onGrid? tie exponent with
      | none => exact ih (exponent - 1)
      | some digits => exact takes_of_readsBack (readsBack_of_onGrid? found)

/-- The shortest decimal rounds to the magnitude. -/
theorem takes_shortest (positive : 0 < magnitude.significand) (tie : Tie) :
    magnitude.Takes (magnitude.shortest tie).value :=
  takes_searchGrids positive 17 _

end Magnitude

end TestSynth.Decimal
