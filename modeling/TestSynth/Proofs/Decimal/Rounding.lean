import Mathlib.Data.Int.Log
import Mathlib.Data.Rat.Floor
import TestSynth.Decimal.Reading
import TestSynth.Proofs.Decimal.Intervals

/-!
# Reading decimals rounds to the nearest value

A number that rounds to a finite magnitude is read as the bits of that magnitude.
-/

namespace TestSynth.Decimal

section Ratio

variable {numerator denominator nearest : Nat} {exponent : Int}

theorem scaled_lt_scaled_iff (positive : 0 < denominator) :
    scaled 2 numerator (-exponent) < scaled 2 denominator exponent ↔
      (numerator / denominator : ℚ) < 2 ^ exponent := by
  have some : (0 : ℚ) < scaled 2 denominator exponent :=
    Nat.cast_pos.mpr (scaled_pos Nat.two_pos positive exponent)
  have power : (0 : ℚ) < 2 ^ exponent := by positivity
  have ratio := scaled_div_scaled Nat.two_pos numerator denominator exponent
  rw [← Nat.cast_lt (α := ℚ), ← div_lt_one some, ratio, Nat.cast_ofNat, div_lt_one power]

/-- A positive ratio is from one power of two up to below the next. -/
theorem binaryExponent_spec (some : 0 < numerator) (positive : 0 < denominator) :
    (2 : ℚ) ^ binaryExponent numerator denominator ≤ numerator / denominator ∧
      (numerator / denominator : ℚ) < 2 ^ (binaryExponent numerator denominator + 1) := by
  have two : (2 : ℚ) ≠ 0 := by norm_num
  have divides : (0 : ℚ) < denominator := Nat.cast_pos.mpr positive
  have numeratorLow : ((2 ^ numerator.log2 : Nat) : ℚ) ≤ numerator :=
    Nat.cast_le.mpr (Nat.log2_self_le some.ne')
  have numeratorHigh : (numerator : ℚ) < (2 ^ (numerator.log2 + 1) : Nat) :=
    Nat.cast_lt.mpr Nat.lt_log2_self
  have denominatorLow : ((2 ^ denominator.log2 : Nat) : ℚ) ≤ denominator :=
    Nat.cast_le.mpr (Nat.log2_self_le positive.ne')
  have denominatorHigh : (denominator : ℚ) < (2 ^ (denominator.log2 + 1) : Nat) :=
    Nat.cast_lt.mpr Nat.lt_log2_self
  push_cast at numeratorLow numeratorHigh denominatorLow denominatorHigh
  have low : (2 : ℚ) ^ ((numerator.log2 : Int) - denominator.log2 - 1) ≤
      numerator / denominator := by
    rw [le_div_iff₀ divides, sub_sub, zpow_sub₀ two, zpow_natCast, ← Nat.cast_add_one,
      zpow_natCast, div_mul_eq_mul_div, div_le_iff₀ (by positivity)]
    exact mul_le_mul numeratorLow denominatorHigh.le divides.le (by positivity)
  have high : (numerator / denominator : ℚ) <
      2 ^ ((numerator.log2 : Int) - denominator.log2 + 1) := by
    rw [div_lt_iff₀ divides, sub_add_eq_add_sub, zpow_sub₀ two, zpow_natCast,
      ← Nat.cast_add_one, zpow_natCast, div_mul_eq_mul_div, lt_div_iff₀ (by positivity)]
    exact mul_lt_mul numeratorHigh denominatorLow (by positivity) (by positivity)
  unfold binaryExponent
  dsimp only
  split
  case isTrue below =>
    rw [scaled_lt_scaled_iff positive] at below
    exact ⟨low, by rwa [sub_add_cancel]⟩
  case isFalse above =>
    rw [scaled_lt_scaled_iff positive, not_lt] at above
    exact ⟨above, high⟩

theorem binaryExponent_eq (some : 0 < numerator) (positive : 0 < denominator) :
    binaryExponent numerator denominator = Int.log 2 (numerator / denominator : ℚ) := by
  obtain ⟨low, high⟩ := binaryExponent_spec some positive
  have ratio : (0 : ℚ) < numerator / denominator :=
    div_pos (Nat.cast_pos.mpr some) (Nat.cast_pos.mpr positive)
  have least := (Int.zpow_le_iff_le_log Nat.one_lt_two ratio).mp (by exact_mod_cast low)
  have most := (Int.lt_zpow_iff_log_lt Nat.one_lt_two ratio).mp (by exact_mod_cast high)
  exact le_antisymm least (Int.lt_add_one_iff.mp most)

/-- A ratio at most a half away from a number is rounded to it, if it is nearer than a
half or the number is even. -/
theorem divideToNearestEven_eq (positive : 0 < denominator)
    (below : (nearest - 1 / 2 : ℚ) ≤ numerator / denominator)
    (above : (numerator / denominator : ℚ) ≤ nearest + 1 / 2)
    (inside : nearest % 2 = 1 → (nearest - 1 / 2 : ℚ) < numerator / denominator ∧
      (numerator / denominator : ℚ) < nearest + 1 / 2) :
    divideToNearestEven numerator denominator = nearest := by
  have divides : (0 : ℚ) < denominator := Nat.cast_pos.mpr positive
  simp only [le_div_iff₀ divides, div_le_iff₀ divides, lt_div_iff₀ divides,
    div_lt_iff₀ divides] at below above inside
  have whole := Nat.div_add_mod numerator denominator
  have rest := Nat.mod_lt numerator positive
  unfold divideToNearestEven
  generalize numerator / denominator = quotient at *
  generalize numerator % denominator = remainder at *
  subst whole
  push_cast at below above inside
  have remains : (remainder : ℚ) < denominator := Nat.cast_lt.mpr rest
  -- The ratio is between the quotient and the next number, so one of them is nearest.
  have atMost : quotient ≤ nearest := by
    by_contra less
    have next : (nearest + 1 : ℚ) ≤ quotient := by exact_mod_cast Nat.lt_of_not_le less
    nlinarith
  have atLeast : nearest ≤ quotient + 1 := by
    by_contra more
    have next : (quotient + 2 : ℚ) ≤ nearest := by exact_mod_cast Nat.lt_of_not_le more
    nlinarith
  rcases Nat.eq_or_lt_of_le atMost with rfl | more
  · have atMostHalf : 2 * remainder ≤ denominator := by
      have doubled : (2 * remainder : ℚ) ≤ denominator := by linarith
      exact_mod_cast doubled
    have belowHalf : quotient % 2 = 1 → 2 * remainder < denominator := fun odd => by
      have doubled : (2 * remainder : ℚ) < denominator := by linarith [(inside odd).2]
      exact_mod_cast doubled
    dsimp only
    split
    · rfl
    split <;> omega
  · obtain rfl : nearest = quotient + 1 := by omega
    push_cast at below inside
    have atLeastHalf : denominator ≤ 2 * remainder := by
      have doubled : (denominator : ℚ) ≤ 2 * remainder := by linarith
      exact_mod_cast doubled
    have aboveHalf : (quotient + 1) % 2 = 1 → denominator < 2 * remainder := fun odd => by
      have doubled : (denominator : ℚ) < 2 * remainder := by linarith [(inside odd).1]
      exact_mod_cast doubled
    dsimp only
    split
    · omega
    split <;> omega

end Ratio

namespace Magnitude

variable {magnitude : Magnitude}

theorem upper_eq (magnitude : Magnitude) :
    magnitude.upper = (magnitude.significand + 1 / 2) * 2 ^ magnitude.exponent := by
  rw [upper, zpow_sub₀ (by norm_num)]
  push_cast
  ring

/-- The halfway point below is half a unit away, or nearer. -/
theorem half_below_le_lower (magnitude : Magnitude) :
    (magnitude.significand - 1 / 2 : ℚ) * 2 ^ magnitude.exponent ≤ magnitude.lower := by
  have quarters : (4 * magnitude.significand : ℚ) ≤
      (4 * magnitude.significand - if magnitude.narrowBelow then 1 else 2 : Nat) + 2 := by
    have fewer : 4 * magnitude.significand ≤
        (4 * magnitude.significand - if magnitude.narrowBelow then 1 else 2) + 2 := by
      split <;> omega
    exact_mod_cast fewer
  have power : (2 : ℚ) ^ magnitude.exponent = 4 * 2 ^ (magnitude.exponent - 2) := by
    rw [zpow_sub₀ (by norm_num)]
    ring
  rw [lower, power, ← mul_assoc]
  gcongr
  linarith

theorem lower_eq_of_narrow (narrow : magnitude.narrowBelow = true)
    (positive : 0 < magnitude.significand) :
    magnitude.lower = (magnitude.significand - 1 / 4) * 2 ^ magnitude.exponent := by
  rw [lower, if_pos narrow, Nat.cast_sub (by omega), zpow_sub₀ (by norm_num)]
  push_cast
  ring

theorem lower_pos (positive : 0 < magnitude.significand) : 0 < magnitude.lower := by
  have some : 0 < 4 * magnitude.significand - if magnitude.narrowBelow then 1 else 2 := by
    split <;> omega
  exact mul_pos (Nat.cast_pos.mpr some) (by positivity)

theorem coefficient_pos_of_takes {digits : Digits} (positive : 0 < magnitude.significand)
    (takes : magnitude.Takes digits.value) : 0 < digits.coefficient := by
  by_contra none
  have zero : digits.value = 0 := by
    rw [Digits.value, Nat.eq_zero_of_not_pos none, Nat.cast_zero, zero_mul]
  exact absurd (zero ▸ takes.lower_le) (lower_pos positive).not_ge

end Magnitude

/-- A decimal is from the power of ten of its first digit up to below the next. -/
theorem Digits.value_bounds (digits : Digits) (some : 0 < digits.coefficient) :
    (10 : ℚ) ^ (digits.exponent + (Nat.toDigits 10 digits.coefficient).length - 1) ≤
        digits.value ∧
      digits.value < 10 ^ (digits.exponent + (Nat.toDigits 10 digits.coefficient).length) := by
  obtain ⟨places, length⟩ := Nat.exists_eq_add_of_lt
    (Nat.length_toDigits_pos (b := 10) (n := digits.coefficient))
  rw [Nat.zero_add] at length
  have most := (Nat.length_toDigits_le_iff (by decide) places.succ_pos).mp length.le
  have least : 10 ^ places ≤ digits.coefficient := by
    rcases Nat.eq_zero_or_pos places with rfl | several
    · exact some
    · by_contra fewer
      have short := (Nat.length_toDigits_le_iff (by decide) several).mpr (Nat.lt_of_not_le fewer)
      omega
  have shifted (count : Nat) :
      (10 : ℚ) ^ (digits.exponent + count) = 10 ^ count * 10 ^ digits.exponent := by
    rw [zpow_add₀ (by norm_num), zpow_natCast, mul_comm]
  rw [length, shifted, Nat.cast_add_one, ← add_assoc, add_sub_cancel_right, shifted]
  have power : (0 : ℚ) < 10 ^ digits.exponent := by positivity
  constructor
  · exact mul_le_mul_of_nonneg_right (by exact_mod_cast least) power.le
  · exact mul_lt_mul_of_pos_right (by exact_mod_cast most) power

namespace BinaryFormat

variable {format : BinaryFormat} {bits numerator denominator : Nat} {negative : Bool}

/-- The magnitude of bits below those of the positive infinity. -/
def magnitude (format : BinaryFormat) (bits : Nat) : Magnitude :=
  let fraction := bits % powerOfTwo format.fractionBits
  let field := bits / powerOfTwo format.fractionBits
  if field = 0 then
    { significand := fraction, exponent := format.lowestExponent, narrowBelow := false }
  else
    { significand := powerOfTwo format.fractionBits + fraction
      exponent := format.lowestExponent + (field - 1)
      narrowBelow := fraction == 0 && 1 < field }

theorem powerOfTwo_pos (exponent : Nat) : 0 < powerOfTwo exponent :=
  Nat.two_pow_pos exponent

theorem signBit_eq (format : BinaryFormat) :
    format.signBit = powerOfTwo format.exponentBits * powerOfTwo format.fractionBits := by
  rw [signBit, Nat.mul_comm]
  exact Nat.pow_add 2 _ _

/-- The value of bits with a sign in front of them. -/
theorem decode_signed (small : bits < format.signBit) (negative : Bool) :
    format.decode (bits + if negative then format.signBit else 0) =
      if bits / powerOfTwo format.fractionBits = format.specialExponent then
        if bits % powerOfTwo format.fractionBits = 0 then .infinite negative else .notANumber
      else .finite negative (format.magnitude bits) := by
  rw [signBit_eq] at small
  have bound : bits / powerOfTwo format.fractionBits < powerOfTwo format.exponentBits :=
    Nat.div_lt_of_lt_mul (Nat.mul_comm _ _ ▸ small)
  have width : powerOfTwo (format.fractionBits + format.exponentBits) =
      powerOfTwo format.fractionBits * powerOfTwo format.exponentBits :=
    Nat.pow_add 2 _ _
  have mark : (if negative then format.signBit else 0) =
      negative.toNat * powerOfTwo format.exponentBits * powerOfTwo format.fractionBits := by
    cases negative with
    | false => simp
    | true => simp [signBit_eq]
  have above := Nat.add_mul_div_right bits (negative.toNat * powerOfTwo format.exponentBits)
    (powerOfTwo_pos format.fractionBits)
  have field : (bits / powerOfTwo format.fractionBits +
      negative.toNat * powerOfTwo format.exponentBits) % powerOfTwo format.exponentBits =
        bits / powerOfTwo format.fractionBits := by
    rw [Nat.add_mul_mod_self_right, Nat.mod_eq_of_lt bound]
  have sign : (bits / powerOfTwo format.fractionBits +
      negative.toNat * powerOfTwo format.exponentBits) / powerOfTwo format.exponentBits =
        negative.toNat := by
    rw [Nat.add_mul_div_right _ _ (powerOfTwo_pos _), Nat.div_eq_of_lt bound, Nat.zero_add]
  have negativeBack : (negative.toNat % 2 == 1) = negative := by cases negative <;> rfl
  simp only [decode, mark, width, ← Nat.div_div_eq_div_mul, Nat.add_mul_mod_self_right, above,
    field, sign, negativeBack, magnitude]
  split
  · rfl
  split <;> rfl

theorem exists_sign (small : bits < 2 * format.signBit) :
    ∃ (negative : Bool) (unsigned : Nat), unsigned < format.signBit ∧
      bits = unsigned + if negative then format.signBit else 0 := by
  rcases Nat.lt_or_ge bits format.signBit with below | above
  · exact ⟨false, bits, below, rfl⟩
  · exact ⟨true, bits - format.signBit, by omega, (Nat.sub_add_cancel above).symm⟩

/-- Finite values have their sign in front of bits below those of the positive infinity. -/
theorem exists_of_decode {magnitude : Magnitude} (small : bits < 2 * format.signBit)
    (finite : format.decode bits = .finite negative magnitude) :
    ∃ unsigned < format.infinityBits,
      bits = (unsigned + if negative then format.signBit else 0) ∧
        magnitude = format.magnitude unsigned := by
  obtain ⟨sign, unsigned, below, rfl⟩ := exists_sign small
  rw [decode_signed below] at finite
  split at finite
  case isTrue => split at finite <;> cases finite
  case isFalse field =>
    cases finite
    refine ⟨unsigned, ?_, rfl, rfl⟩
    rw [signBit_eq, ← Nat.div_lt_iff_lt_mul (powerOfTwo_pos _)] at below
    rw [infinityBits, ← Nat.div_lt_iff_lt_mul (powerOfTwo_pos _)]
    exact Nat.lt_of_le_of_ne (Nat.le_sub_one_of_lt below) field

/-- How bits are made of a magnitude.  The neighbour below is nearer exactly at the powers
of two above the smallest ones. -/
structure Encodes (format : BinaryFormat) (bits : Nat) (magnitude : Magnitude) : Prop where
  lowest_le : format.lowestExponent ≤ magnitude.exponent
  significand_lt : magnitude.significand < 2 * powerOfTwo format.fractionBits
  le_significand : format.lowestExponent < magnitude.exponent →
    powerOfTwo format.fractionBits ≤ magnitude.significand
  narrow : format.lowestExponent < magnitude.exponent →
    magnitude.significand = powerOfTwo format.fractionBits → magnitude.narrowBelow = true
  bits_eq : bits = magnitude.significand +
    (magnitude.exponent - format.lowestExponent).toNat * powerOfTwo format.fractionBits

theorem encodes_magnitude (format : BinaryFormat) (bits : Nat) :
    format.Encodes bits (format.magnitude bits) := by
  have width := powerOfTwo_pos format.fractionBits
  have split := Nat.div_add_mod' bits (powerOfTwo format.fractionBits)
  have rest := Nat.mod_lt bits width
  unfold magnitude
  generalize bits / powerOfTwo format.fractionBits = field at *
  generalize bits % powerOfTwo format.fractionBits = fraction at *
  cases field with
  | zero =>
      rw [if_pos rfl]
      refine ⟨?_, ?_, ?_, ?_, ?_⟩ <;> dsimp only
      · exact le_rfl
      · omega
      · exact fun above => absurd above (lt_irrefl _)
      · exact fun above => absurd above (lt_irrefl _)
      · rw [sub_self, Int.toNat_zero, Nat.add_comm]
        exact split.symm
  | succ steps =>
      have steps_eq : format.lowestExponent + ((steps + 1 : Nat) - 1 : Int) =
          format.lowestExponent + steps := by
        omega
      rw [if_neg steps.succ_ne_zero, steps_eq]
      refine ⟨?_, ?_, ?_, ?_, ?_⟩ <;> dsimp only
      · omega
      · omega
      · exact fun _ => Nat.le_add_right _ _
      · intro above same
        have several : 1 < steps + 1 := by omega
        have none : fraction = 0 := by omega
        simp [several, none]
      · rw [add_sub_cancel_left, Int.toNat_natCast, ← split]
        ring

theorem significand_pos (format : BinaryFormat) (some : 0 < bits) :
    0 < (format.magnitude bits).significand := by
  have encodes := encodes_magnitude format bits
  have width := powerOfTwo_pos format.fractionBits
  rcases encodes.lowest_le.lt_or_eq with above | same
  · exact width.trans_le (encodes.le_significand above)
  · have whole := encodes.bits_eq
    rw [← same, sub_self, Int.toNat_zero, Nat.zero_mul, Nat.add_zero] at whole
    exact whole ▸ some

/-- The exponent to which a number that rounds to a magnitude is scaled.  It is that of the
magnitude, unless the number is below a power of two that it rounds to. -/
inductive Scales (format : BinaryFormat) (magnitude : Magnitude) (number : ℚ)
    (exponent : Int) : Prop
  | same : exponent = magnitude.exponent → Scales format magnitude number exponent
  | below : exponent = magnitude.exponent - 1 → format.lowestExponent < magnitude.exponent →
      magnitude.significand = powerOfTwo format.fractionBits → number < magnitude.value →
      Scales format magnitude number exponent

theorem powerOfTwo_mul_zpow (width : Nat) (exponent : Int) :
    (powerOfTwo width : ℚ) * 2 ^ exponent = 2 ^ (width + exponent) := by
  rw [powerOfTwo, Nat.pow_eq, zpow_add₀ (by norm_num), zpow_natCast]
  push_cast
  rfl

theorem Encodes.upper_lt_zpow {magnitude : Magnitude}
    (encodes : format.Encodes bits magnitude) :
    magnitude.upper < 2 ^ (format.fractionBits + (1 + magnitude.exponent)) := by
  have power : (0 : ℚ) < 2 ^ magnitude.exponent := by positivity
  have significand : (magnitude.significand + 1 : ℚ) ≤ powerOfTwo format.fractionBits * 2 := by
    exact_mod_cast Nat.mul_comm _ _ ▸ encodes.significand_lt
  calc magnitude.upper = (magnitude.significand + 1 / 2) * 2 ^ magnitude.exponent :=
        magnitude.upper_eq
    _ < powerOfTwo format.fractionBits * 2 * 2 ^ magnitude.exponent := by
        gcongr
        linarith
    _ = 2 ^ (format.fractionBits + (1 + magnitude.exponent)) := by
        rw [← powerOfTwo_mul_zpow, zpow_one_add₀ (by norm_num), mul_assoc]

/-- Only a power of two takes numbers below it of a lower binary exponent. -/
theorem Encodes.significand_eq_of_takes {magnitude : Magnitude} {number : ℚ}
    (encodes : format.Encodes bits magnitude)
    (above : format.lowestExponent < magnitude.exponent) (takes : magnitude.Takes number)
    (less : number < powerOfTwo format.fractionBits * 2 ^ magnitude.exponent) :
    magnitude.significand = powerOfTwo format.fractionBits := by
  have power : (0 : ℚ) < 2 ^ magnitude.exponent := by positivity
  have low := (magnitude.half_below_le_lower.trans takes.lower_le).trans_lt less
  have near : (magnitude.significand - 1 / 2 : ℚ) < powerOfTwo format.fractionBits :=
    lt_of_mul_lt_mul_right low power.le
  have close : (magnitude.significand : ℚ) < powerOfTwo format.fractionBits + 1 := by
    linarith
  have atMost : magnitude.significand < powerOfTwo format.fractionBits + 1 := by
    exact_mod_cast close
  exact le_antisymm (Nat.le_of_lt_succ atMost) (encodes.le_significand above)

/-- What a power of two takes is more than half of it. -/
theorem Encodes.le_log_of_takes {magnitude : Magnitude} {number : ℚ}
    (encodes : format.Encodes bits magnitude)
    (above : format.lowestExponent < magnitude.exponent) (positive : 0 < number)
    (takes : magnitude.Takes number)
    (significand : magnitude.significand = powerOfTwo format.fractionBits) :
    format.fractionBits + (magnitude.exponent - 1) ≤ Int.log 2 number := by
  have some : 0 < magnitude.significand := significand ▸ powerOfTwo_pos _
  have width : (1 : ℚ) ≤ powerOfTwo format.fractionBits :=
    Nat.one_le_cast.mpr (powerOfTwo_pos _)
  rw [← Int.zpow_le_iff_le_log Nat.one_lt_two positive, Nat.cast_ofNat]
  calc (2 : ℚ) ^ (format.fractionBits + (magnitude.exponent - 1)) =
      powerOfTwo format.fractionBits / 2 * 2 ^ magnitude.exponent := by
        rw [← powerOfTwo_mul_zpow, zpow_sub_one₀ (by norm_num)]
        ring
    _ ≤ (magnitude.significand - 1 / 4) * 2 ^ magnitude.exponent := by
        rw [significand]
        gcongr
        linarith
    _ ≤ number := by
        rw [← Magnitude.lower_eq_of_narrow (encodes.narrow above significand) some]
        exact takes.lower_le

theorem scales_of_takes {magnitude : Magnitude} {number : ℚ}
    (encodes : format.Encodes bits magnitude) (positive : 0 < number)
    (takes : magnitude.Takes number) :
    Scales format magnitude number
      (max format.lowestExponent (Int.log 2 number - format.fractionBits)) := by
  have most : Int.log 2 number < format.fractionBits + (1 + magnitude.exponent) := by
    rw [← Int.lt_zpow_iff_log_lt Nat.one_lt_two positive, Nat.cast_ofNat]
    exact takes.le_upper.trans_lt encodes.upper_lt_zpow
  rcases encodes.lowest_le.lt_or_eq with above | same
  · by_cases least : (powerOfTwo format.fractionBits : ℚ) * 2 ^ magnitude.exponent ≤ number
    · rw [powerOfTwo_mul_zpow] at least
      have logarithm := (Int.zpow_le_iff_le_log Nat.one_lt_two positive).mp
        (by exact_mod_cast least)
      exact .same (by omega)
    · rw [not_le] at least
      have significand := encodes.significand_eq_of_takes above takes least
      have logarithm := encodes.le_log_of_takes above positive takes significand
      have exponent : Int.log 2 number < format.fractionBits + magnitude.exponent := by
        rw [← Int.lt_zpow_iff_log_lt Nat.one_lt_two positive, Nat.cast_ofNat,
          ← powerOfTwo_mul_zpow]
        exact least
      refine .below (by omega) above significand ?_
      rw [Magnitude.value, significand]
      exact least
  · exact .same (by omega)

/-- At the exponent of the magnitude the significand is the nearest number. -/
theorem nearest_of_takes {magnitude : Magnitude} (positive : 0 < denominator)
    (takes : magnitude.Takes (numerator / denominator)) :
    divideToNearestEven (scaled 2 numerator (-magnitude.exponent))
      (scaled 2 denominator magnitude.exponent) = magnitude.significand := by
  have ratio := scaled_div_scaled Nat.two_pos numerator denominator magnitude.exponent
  rw [Nat.cast_ofNat] at ratio
  have below := magnitude.half_below_le_lower
  have above := magnitude.upper_eq
  have power : (0 : ℚ) < 2 ^ magnitude.exponent := by positivity
  apply divideToNearestEven_eq (scaled_pos Nat.two_pos positive _) <;> rw [ratio]
  · rw [le_div_iff₀ power]
    exact below.trans takes.lower_le
  · rw [div_le_iff₀ power, ← above]
    exact takes.le_upper
  · intro odd
    rw [lt_div_iff₀ power, div_lt_iff₀ power, ← above]
    exact ⟨below.trans_lt (takes.inside odd).1, (takes.inside odd).2⟩

/-- At the exponent below, twice the significand is. -/
theorem nearest_of_takes_below {magnitude : Magnitude} (positive : 0 < denominator)
    (some : 0 < magnitude.significand) (narrow : magnitude.narrowBelow = true)
    (takes : magnitude.Takes (numerator / denominator))
    (less : (numerator / denominator : ℚ) < magnitude.value) :
    divideToNearestEven (scaled 2 numerator (-(magnitude.exponent - 1)))
      (scaled 2 denominator (magnitude.exponent - 1)) = 2 * magnitude.significand := by
  have ratio := scaled_div_scaled Nat.two_pos numerator denominator (magnitude.exponent - 1)
  have halved : (2 : ℚ) ^ (magnitude.exponent - 1) = 2 ^ magnitude.exponent / 2 := by
    rw [zpow_sub_one₀ (by norm_num), div_eq_mul_inv]
  rw [Nat.cast_ofNat, halved] at ratio
  have halfPower : (0 : ℚ) < 2 ^ magnitude.exponent / 2 := by positivity
  have quarter := Magnitude.lower_eq_of_narrow narrow some
  rw [Magnitude.value] at less
  apply divideToNearestEven_eq (scaled_pos Nat.two_pos positive _) <;> rw [ratio] <;> push_cast
  · rw [le_div_iff₀ halfPower]
    linarith [takes.lower_le]
  · rw [div_le_iff₀ halfPower]
    linarith
  · omega

theorem Encodes.bits_of_scales {magnitude : Magnitude} {exponent : Int}
    (encodes : format.Encodes bits magnitude) (positive : 0 < denominator)
    (takes : magnitude.Takes (numerator / denominator))
    (scales : Scales format magnitude (numerator / denominator) exponent) :
    divideToNearestEven (scaled 2 numerator (-exponent)) (scaled 2 denominator exponent) +
      (exponent - format.lowestExponent).toNat * powerOfTwo format.fractionBits = bits := by
  cases scales with
  | same same =>
      subst same
      rw [nearest_of_takes positive takes, encodes.bits_eq]
  | below lower lowest significand less =>
      subst lower
      have some : 0 < magnitude.significand := significand ▸ powerOfTwo_pos _
      have narrow := encodes.narrow lowest significand
      have steps : (magnitude.exponent - format.lowestExponent).toNat =
          (magnitude.exponent - 1 - format.lowestExponent).toNat + 1 := by
        omega
      rw [nearest_of_takes_below positive some narrow takes less, encodes.bits_eq, steps,
        significand]
      ring

theorem eq_zero_of_takes_zero (takes : (format.magnitude bits).Takes 0) : bits = 0 := by
  by_contra some
  have below := Magnitude.lower_pos (significand_pos format (Nat.pos_of_ne_zero some))
  exact absurd takes.lower_le below.not_ge

/-- A number that rounds to finite bits is read as these bits. -/
theorem nearestBits_of_takes (finite : bits < format.infinityBits) (positive : 0 < denominator)
    (takes : (format.magnitude bits).Takes (numerator / denominator)) :
    format.nearestBits numerator denominator = bits := by
  have encodes := encodes_magnitude format bits
  rcases Nat.eq_zero_or_pos numerator with rfl | some
  · rw [Nat.cast_zero, zero_div] at takes
    exact (eq_zero_of_takes_zero takes).symm
  have ratio : (0 : ℚ) < numerator / denominator :=
    div_pos (Nat.cast_pos.mpr some) (Nat.cast_pos.mpr positive)
  have scales := scales_of_takes encodes ratio takes
  unfold nearestBits
  rw [if_neg some.ne', binaryExponent_eq some positive]
  generalize format.magnitude bits = magnitude at *
  generalize max format.lowestExponent _ = exponent at *
  have rounded := encodes.bits_of_scales positive takes scales
  dsimp only
  rw [rounded, Nat.min_eq_right finite.le]

/-- No number that rounds to a finite magnitude has more digits than are read. -/
theorem Encodes.upper_lt {magnitude : Magnitude} (encodes : format.Encodes bits magnitude)
    (finite : bits < format.infinityBits) :
    magnitude.upper < 2 ^ (powerOfTwo format.exponentBits : Int) := by
  have exponent : format.fractionBits + (1 + magnitude.exponent) ≤
      powerOfTwo format.exponentBits := by
    have lowest := encodes.lowest_le
    have whole := encodes.bits_eq
    have half := powerOfTwo_pos (format.exponentBits - 1)
    have steps : (magnitude.exponent - format.lowestExponent).toNat + 1 ≤
        format.specialExponent := by
      rcases lowest.lt_or_eq with above | same
      · have room := encodes.le_significand above
        have product : ((magnitude.exponent - format.lowestExponent).toNat + 1) *
            powerOfTwo format.fractionBits < format.infinityBits := by
          rw [Nat.add_one_mul]
          omega
        exact (Nat.lt_of_mul_lt_mul_right product).le
      · rw [← same, sub_self, Int.toNat_zero]
        exact Nat.pos_of_mul_pos_right (Nat.zero_lt_of_lt finite)
    unfold lowestExponent specialExponent at *
    omega
  exact encodes.upper_lt_zpow.trans_le (zpow_le_zpow_right₀ one_le_two exponent)

/-- No number that rounds to a positive magnitude is too small to be read. -/
theorem Encodes.le_lower {magnitude : Magnitude} (encodes : format.Encodes bits magnitude)
    (some : 0 < magnitude.significand) :
    (2 : ℚ) ^ (-(powerOfTwo format.exponentBits + format.fractionBits : Int)) ≤
      magnitude.lower := by
  have exponent : -(powerOfTwo format.exponentBits + format.fractionBits : Int) ≤
      magnitude.exponent - 2 := by
    have lowest := encodes.lowest_le
    have half : powerOfTwo (format.exponentBits - 1) ≤ powerOfTwo format.exponentBits :=
      Nat.pow_le_pow_right Nat.two_pos (Nat.sub_le _ 1)
    unfold lowestExponent at lowest
    omega
  have quarters : (1 : ℚ) ≤
      (4 * magnitude.significand - if magnitude.narrowBelow then 1 else 2 : Nat) := by
    have positive : 1 ≤ 4 * magnitude.significand - if magnitude.narrowBelow then 1 else 2 := by
      split <;> omega
    exact_mod_cast positive
  calc (2 : ℚ) ^ (-(powerOfTwo format.exponentBits + format.fractionBits : Int)) ≤
      2 ^ (magnitude.exponent - 2) := zpow_le_zpow_right₀ one_le_two exponent
    _ ≤ magnitude.lower := le_mul_of_one_le_left (by positivity) quarters

/-- A decimal that rounds to a finite magnitude is below every power of ten that is out of
range. -/
theorem Encodes.leading_le {magnitude : Magnitude} {number : ℚ} {leading : Int}
    (encodes : format.Encodes bits magnitude) (finite : bits < format.infinityBits)
    (takes : magnitude.Takes number) (least : (10 : ℚ) ^ (leading - 1) ≤ number) :
    leading ≤ powerOfTwo format.exponentBits := by
  by_contra many
  have above : (2 : ℚ) ^ (powerOfTwo format.exponentBits : Int) ≤ 10 ^ (leading - 1) :=
    calc (2 : ℚ) ^ (powerOfTwo format.exponentBits : Int) ≤
        10 ^ (powerOfTwo format.exponentBits : Int) := by
          rw [zpow_natCast, zpow_natCast]
          gcongr
          norm_num
      _ ≤ 10 ^ (leading - 1) := zpow_le_zpow_right₀ (by norm_num) (by omega)
  exact absurd (above.trans (least.trans takes.le_upper)) (encodes.upper_lt finite).not_ge

theorem Encodes.le_leading {magnitude : Magnitude} {number : ℚ} {leading : Int}
    (encodes : format.Encodes bits magnitude) (some : 0 < magnitude.significand)
    (takes : magnitude.Takes number) (most : number < (10 : ℚ) ^ leading) :
    -(powerOfTwo format.exponentBits + format.fractionBits : Int) ≤ leading := by
  by_contra few
  have below : (10 : ℚ) ^ leading ≤
      2 ^ (-(powerOfTwo format.exponentBits + format.fractionBits : Int)) :=
    calc (10 : ℚ) ^ leading ≤
        10 ^ (-(powerOfTwo format.exponentBits + format.fractionBits : Int)) :=
          zpow_le_zpow_right₀ (by norm_num) (by omega)
      _ ≤ 2 ^ (-(powerOfTwo format.exponentBits + format.fractionBits : Int)) := by
          rw [zpow_neg, zpow_neg, ← Nat.cast_add, zpow_natCast, zpow_natCast]
          gcongr
          norm_num
  exact absurd ((encodes.le_lower some).trans takes.lower_le) (most.trans_le below).not_ge

/-- A decimal that rounds to finite bits is read as these bits. -/
theorem bitsOfDigits_of_takes {digits : Digits} (finite : bits < format.infinityBits)
    (takes : (format.magnitude bits).Takes digits.value) :
    format.bitsOfDigits digits = bits := by
  have encodes := encodes_magnitude format bits
  unfold bitsOfDigits
  dsimp only
  split
  case isTrue none =>
    rw [Digits.value, none, Nat.cast_zero, zero_mul] at takes
    exact (eq_zero_of_takes_zero takes).symm
  case isFalse some =>
    obtain ⟨low, high⟩ := digits.value_bounds (Nat.pos_of_ne_zero some)
    generalize digits.exponent + ((Nat.toDigits 10 digits.coefficient).length : Int) = leading at *
    split
    case isTrue many =>
      exact absurd (encodes.leading_le finite takes low) (by omega)
    split
    case isTrue few =>
      by_contra nonzero
      have significand := significand_pos format (Nat.pos_of_ne_zero (Ne.symm nonzero))
      exact absurd (encodes.le_leading significand takes high) (by omega)
    case isFalse =>
      have positive : 0 < scaled 10 1 (-digits.exponent) :=
        scaled_pos (by decide) (by decide) _
      have ratio : (scaled 10 digits.coefficient digits.exponent : ℚ) /
          scaled 10 1 (-digits.exponent) = digits.value := by
        rw [cast_scaled_zpow (by decide), cast_scaled, Nat.cast_one, one_mul, Nat.cast_ofNat,
          mul_div_cancel_right₀ _ (pow_ne_zero _ (by norm_num)), Digits.value]
      exact nearestBits_of_takes finite positive (ratio ▸ takes)

end BinaryFormat

end TestSynth.Decimal
