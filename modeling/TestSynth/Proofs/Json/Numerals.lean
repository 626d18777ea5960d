import Mathlib.Data.List.TakeWhile
import TestSynth.Json.Printer
import TestSynth.Proofs.Decimal.Rounding
import TestSynth.Proofs.Json.Digits

/-!
# Reading numbers back

A number is digits, of which some may stand after a point, and may have a power.  Finite
reals are read back from their shortest decimals, bit by bit.
-/

namespace TestSynth.Json

open Text
open Decimal (Digits)

/-- A number without its sign. -/
structure Numeral where
  whole : List Char
  fraction : Option (List Char)
  power : Option Int

namespace Numeral

/-- A fraction after its point. -/
def fractionText : Option (List Char) → List Char
  | none => []
  | some places => '.' :: places

/-- A power after its mark. -/
def powerText : Option Int → List Char
  | none => []
  | some power => 'e' :: (if power < 0 then '-' else '+') :: Nat.toDigits 10 power.natAbs

def text (numeral : Numeral) : List Char :=
  numeral.whole ++ (fractionText numeral.fraction ++ powerText numeral.power)

/-- The decimal that a numeral writes. -/
def digits (numeral : Numeral) : Digits :=
  { coefficient := numberOfDigits 10 (numeral.whole ++ numeral.fraction.getD [])
    exponent := numeral.power.getD 0 - (numeral.fraction.getD []).length }

/-- There are digits in every part, and no needless zero in front. -/
structure WellFormed (numeral : Numeral) : Prop where
  filled : numeral.whole ≠ []
  digit : ∀ digit ∈ numeral.whole, isDigit digit = true
  needed : numeral.whole.head? = some '0' → numeral.whole.length = 1
  fraction : ∀ places ∈ numeral.fraction, places ≠ [] ∧ ∀ digit ∈ places, isDigit digit = true

end Numeral

/-- The text does not go on with what may be part of a number. -/
structure EndsNumber (rest : List Char) : Prop where
  digits : EndsDigits rest
  point : ∀ character ∈ rest.head?, character ≠ '.'
  mark : ∀ character ∈ rest.head?, character ≠ 'e' ∧ character ≠ 'E'

/-- The value of a number whose parts have been read. -/
def numberOf (negative : Bool) (numeral : Numeral) : Reader Json :=
  let number := numberOfDigits 10 numeral.whole
  let signed : Int := if negative then -number else number
  if numeral.fraction.isNone && numeral.power.isNone && fitsWord signed &&
      !(negative && number == 0) then
    pure (.integer signed)
  else
    let format := Decimal.BinaryFormat.double
    let bits := format.bitsOfDigits numeral.digits
    if bits = format.infinityBits then Reader.refuse
    else pure (.real (.ofNat (bits + if negative then format.signBit else 0)))

theorem readNumber_eq :
    readNumber = (do
      let sign ← Reader.optional (Reader.char '-')
      let whole ← readWhole
      let fraction ← Reader.optional readFraction
      let power ← Reader.optional readPower
      numberOf sign.isSome { whole := whole, fraction := fraction, power := power }) :=
  rfl

variable {rest : List Char} {numeral : Numeral} {negative : Bool}

theorem reads_fraction {places : List Char} (filled : places ≠ [])
    (all : ∀ digit ∈ places, isDigit digit = true) (ends : EndsDigits rest) :
    readFraction.Reads ('.' :: places) rest places :=
  (Reader.reads_char '.' _).bind (Reader.reads_takeSome filled all ends)

theorem reads_power (power : Int) (ends : EndsDigits rest) :
    readPower.Reads (Numeral.powerText (some power)) rest power := by
  have digits : (Reader.takeSome isDigit).Reads (Nat.toDigits 10 power.natAbs) rest
      (Nat.toDigits 10 power.natAbs) :=
    Reader.reads_takeSome Nat.toDigits_ne_nil (fun _ => isDigit_of_mem_toDigits) ends
  refine (Reader.reads_oneOf (by decide) _).bind ?_
  by_cases negative : power < 0
  · have same : -(power.natAbs : Int) = power := by omega
    rw [if_pos negative]
    refine (Reader.reads_oneOf (by decide) _).optional.bind (digits.bind_pure ?_)
    rw [numberOfDigits_toDigits]
    change Reader.Reads (pure (-(power.natAbs : Int))) [] rest power
    rw [same]
    exact Reader.reads_pure power rest
  · have same : (power.natAbs : Int) = power := by omega
    rw [if_neg negative]
    refine (Reader.reads_oneOf (by decide) _).optional.bind (digits.bind_pure ?_)
    rw [numberOfDigits_toDigits]
    change Reader.Reads (pure (power.natAbs : Int)) [] rest power
    rw [same]
    exact Reader.reads_pure power rest

/-- Digits end where the rest of a numeral starts. -/
theorem endsDigits_powerText (power : Option Int) (ends : EndsNumber rest) :
    EndsDigits (Numeral.powerText power ++ rest) := by
  cases power with
  | none => exact ends.digits
  | some power =>
      rintro character ⟨⟩
      decide

theorem endsDigits_fractionText (fraction : Option (List Char)) (power : Option Int)
    (ends : EndsNumber rest) :
    EndsDigits (Numeral.fractionText fraction ++ (Numeral.powerText power ++ rest)) := by
  cases fraction with
  | none => exact endsDigits_powerText power ends
  | some places =>
      rintro character ⟨⟩
      decide

theorem reads_optional_power (power : Option Int) (ends : EndsNumber rest) :
    (Reader.optional readPower).Reads (Numeral.powerText power) rest power := by
  cases power with
  | some power => exact (reads_power power ends.digits).optional
  | none =>
      apply Reader.Refuses.optional
      cases rest with
      | nil => rfl
      | cons character others =>
          obtain ⟨small, large⟩ := ends.mark character rfl
          exact (Reader.refuses_oneOf (by simp [small, large]) others).bind

theorem reads_optional_fraction (formed : numeral.WellFormed) (ends : EndsNumber rest) :
    (Reader.optional readFraction).Reads (Numeral.fractionText numeral.fraction)
      (Numeral.powerText numeral.power ++ rest) numeral.fraction := by
  have next := endsDigits_powerText numeral.power ends
  cases fraction : numeral.fraction with
  | some places =>
      obtain ⟨filled, all⟩ := formed.fraction places fraction
      exact (reads_fraction filled all next).optional
  | none =>
      apply Reader.Refuses.optional
      cases numeral.power with
      | some power => exact (Reader.refuses_char (by decide) _).bind
      | none =>
          cases rest with
          | nil => rfl
          | cons character others =>
              exact (Reader.refuses_char (ends.point character rfl) others).bind

/-- The parts of a number are read one after the other. -/
theorem reads_number {value : Json} (formed : numeral.WellFormed) (ends : EndsNumber rest)
    (counts : (numberOf negative numeral).Reads [] rest value) :
    readNumber.Reads ((if negative then ['-'] else []) ++ numeral.text) rest value := by
  have next := endsDigits_fractionText numeral.fraction numeral.power ends
  rw [← List.append_assoc] at next
  have whole := reads_whole formed.filled formed.digit formed.needed next
  have fraction := reads_optional_fraction formed ends
  have power := reads_optional_power numeral.power ends
  rw [readNumber_eq, Numeral.text]
  cases negative with
  | true =>
      exact (Reader.reads_char '-' _).optional.bind
        (whole.bind (fraction.bind (power.bind_pure counts)))
  | false =>
      have unsigned : (Reader.optional (Reader.char '-')).Reads []
          (numeral.text ++ rest) none := by
        rw [Numeral.text, List.append_assoc]
        exact reads_unsigned formed.filled formed.digit
      exact unsigned.bind (whole.bind (fraction.bind (power.bind_pure counts)))

theorem reads_integer (value : Int) (fits : fitsWord value = true) (ends : EndsNumber rest) :
    readNumber.Reads (toString value).toList rest (.integer value) := by
  let numeral : Numeral :=
    { whole := Nat.toDigits 10 value.natAbs, fraction := none, power := none }
  have formed : numeral.WellFormed :=
    { filled := Nat.toDigits_ne_nil
      digit := fun _ => isDigit_of_mem_toDigits
      needed := length_toDigits_of_zero
      fraction := nofun }
  have written : (toString value).toList =
      (if decide (value < 0) then ['-'] else []) ++ numeral.text := by
    rw [toList_toString_int, Numeral.text]
    simp [numeral, Numeral.fractionText, Numeral.powerText]
  rw [written]
  refine reads_number formed ends ?_
  have number : numberOfDigits 10 numeral.whole = value.natAbs :=
    numberOfDigits_toDigits value.natAbs
  have signed : (if decide (value < 0) then -(value.natAbs : Int) else value.natAbs) = value := by
    simp only [decide_eq_true_eq]
    split <;> omega
  have noNegativeZero : (!(decide (value < 0) && value.natAbs == 0)) = true := by
    rcases lt_or_ge value 0 with negative | positive
    · simp [negative.ne]
    · simp [not_lt.mpr positive]
  unfold numberOf
  simp only [number, signed, fits, noNegativeZero, numeral, Option.isNone_none, Bool.and_self,
    if_true]
  exact Reader.reads_pure _ rest

/-- A decimal that rounds to finite bits is read as these bits. -/
theorem reads_decimal {bits : Nat} (formed : numeral.WellFormed) (ends : EndsNumber rest)
    (noInteger : numeral.fraction.isSome ∨ numeral.power.isSome)
    (finite : bits < Decimal.BinaryFormat.double.infinityBits)
    (takes : (Decimal.BinaryFormat.double.magnitude bits).Takes numeral.digits.value) :
    readNumber.Reads ((if negative then ['-'] else []) ++ numeral.text) rest
      (.real (.ofNat (bits + if negative then Decimal.BinaryFormat.double.signBit else 0))) := by
  refine reads_number formed ends ?_
  have read := Decimal.BinaryFormat.bitsOfDigits_of_takes finite takes
  have real : (numeral.fraction.isNone && numeral.power.isNone) = false := by
    simpa [Option.isSome_iff_ne_none, or_iff_not_imp_left] using noInteger
  unfold numberOf
  simp only [real, read, Bool.false_and, Bool.false_eq_true, if_false, if_neg finite.ne]
  exact Reader.reads_pure _ rest

section Layout

variable {digits : List Char} {leading : Int}

/-- Digits that start with none of the needless zeros. -/
structure Significant (digits : List Char) : Prop where
  filled : digits ≠ []
  digit : ∀ digit ∈ digits, isDigit digit = true
  needed : digits.head? ≠ some '0'

namespace Numeral

def pointed (digits : List Char) (leading : Int) : Numeral :=
  let whole := leading.toNat + 1
  if leading < 0 then
    { whole := ['0']
      fraction := some (Decimal.zeros (-leading - 1).toNat ++ digits)
      power := none }
  else if digits.length ≤ whole then
    { whole := digits ++ Decimal.zeros (whole - digits.length)
      fraction := some ['0']
      power := none }
  else { whole := digits.take whole, fraction := some (digits.drop whole), power := none }

def scientific (digits : List Char) (leading : Int) : Numeral :=
  { whole := digits.take 1
    fraction := if digits.length ≤ 1 then none else some (digits.drop 1)
    power := some leading }

theorem pointed_of_neg (small : leading < 0) :
    pointed digits leading =
      { whole := ['0']
        fraction := some (Decimal.zeros (-leading - 1).toNat ++ digits)
        power := none } :=
  if_pos small

theorem pointed_of_short (large : ¬ leading < 0) (short : digits.length ≤ leading.toNat + 1) :
    pointed digits leading =
      { whole := digits ++ Decimal.zeros (leading.toNat + 1 - digits.length)
        fraction := some ['0']
        power := none } :=
  (if_neg large).trans (if_pos short)

theorem pointed_of_long (large : ¬ leading < 0) (long : ¬ digits.length ≤ leading.toNat + 1) :
    pointed digits leading =
      { whole := digits.take (leading.toNat + 1)
        fraction := some (digits.drop (leading.toNat + 1))
        power := none } :=
  (if_neg large).trans (if_neg long)

theorem isSome_pointed (digits : List Char) (leading : Int) :
    (pointed digits leading).fraction.isSome = true := by
  by_cases small : leading < 0
  · rw [pointed_of_neg small]
    rfl
  by_cases short : digits.length ≤ leading.toNat + 1
  · rw [pointed_of_short small short]
    rfl
  · rw [pointed_of_long small short]
    rfl

theorem text_pointed (digits : List Char) (leading : Int) :
    (pointed digits leading).text = Decimal.pointed digits leading := by
  unfold Decimal.pointed text
  by_cases small : leading < 0
  · rw [pointed_of_neg small, if_pos small]
    simp [fractionText, powerText]
  rw [if_neg small]
  by_cases short : digits.length ≤ leading.toNat + 1
  · rw [pointed_of_short small short]
    simp [fractionText, powerText, short]
  · rw [pointed_of_long small short]
    simp [fractionText, powerText, short]

theorem text_scientific (filled : digits ≠ []) (leading : Int) :
    (scientific digits leading).text = documentLayout.scientific digits leading := by
  have power : powerText (some leading) =
      'e' :: ((if leading < 0 then [] else documentLayout.plus.toList) ++
        (toString leading).toList) := by
    rw [powerText, toList_toString_int]
    split <;> rfl
  unfold scientific Decimal.Layout.scientific text
  rw [power]
  match digits with
  | [] => exact absurd rfl filled
  | [digit] => simp [fractionText]
  | digit :: next :: rest => simp [fractionText]

/-- Both layouts place the digits alike. -/
theorem value_pointed (digits : List Char) (leading : Int) :
    (pointed digits leading).digits.value =
      numberOfDigits 10 digits * 10 ^ (leading + 1 - digits.length) := by
  unfold Digits.value Numeral.digits
  by_cases small : leading < 0
  · have number : numberOfDigits 10 (['0'] ++ (Decimal.zeros (-leading - 1).toNat ++ digits)) =
        numberOfDigits 10 digits := by
      rw [Decimal.zeros, List.singleton_append, ← List.cons_append, ← List.replicate_succ,
        numberOfDigits_append, numberOfDigits_zeros, Nat.zero_mul, Nat.zero_add]
    have place : (0 : Int) - (Decimal.zeros (-leading - 1).toNat ++ digits).length =
        leading + 1 - digits.length := by
      rw [List.length_append, Decimal.zeros, List.length_replicate]
      omega
    rw [pointed_of_neg small]
    simp only [Option.getD_some, Option.getD_none, number, place]
  by_cases short : digits.length ≤ leading.toNat + 1
  · have number : numberOfDigits 10 (digits ++
        Decimal.zeros (leading.toNat + 1 - digits.length) ++ ['0']) =
          numberOfDigits 10 digits * 10 ^ (leading.toNat + 1 - digits.length + 1) := by
      rw [List.append_assoc, Decimal.zeros, ← List.replicate_succ', numberOfDigits_append,
        numberOfDigits_zeros, List.length_replicate, Nat.add_zero]
    have place : ((leading.toNat + 1 - digits.length + 1 : Nat) : Int) + (0 - (1 : Nat)) =
        leading + 1 - digits.length := by
      omega
    rw [pointed_of_short small short]
    simp only [Option.getD_some, Option.getD_none, number, List.length_singleton]
    rw [← place, zpow_add₀ (by norm_num), zpow_natCast, Nat.cast_mul, Nat.cast_pow, mul_assoc]
    rfl
  · have place : (0 : Int) - (digits.drop (leading.toNat + 1)).length =
        leading + 1 - digits.length := by
      rw [List.length_drop]
      omega
    rw [pointed_of_long small short]
    simp only [Option.getD_some, Option.getD_none, List.take_append_drop, place]

theorem value_scientific (filled : digits ≠ []) (leading : Int) :
    (scientific digits leading).digits.value =
      numberOfDigits 10 digits * 10 ^ (leading + 1 - digits.length) := by
  have places : (scientific digits leading).fraction.getD [] = digits.drop 1 := by
    unfold scientific
    dsimp only
    split
    case isTrue short => rw [Option.getD_none, List.drop_eq_nil_of_le short]
    case isFalse => rfl
  have some := List.length_pos_iff.mpr filled
  have place : leading - (digits.drop 1).length = leading + 1 - digits.length := by
    rw [List.length_drop]
    omega
  unfold Digits.value Numeral.digits
  rw [places]
  simp only [scientific, Option.getD_some, List.take_append_drop, place]

/-- Digits may be parted by a point after any of them but the last. -/
theorem wellFormed_take (significant : Significant digits) (count : Nat)
    {fraction : Option (List Char)} (power : Option Int)
    (parted : ∀ places ∈ fraction,
      count + 1 < digits.length ∧ places = digits.drop (count + 1)) :
    WellFormed { whole := digits.take (count + 1), fraction := fraction, power := power } := by
  obtain ⟨filled, digit, needed⟩ := significant
  refine ⟨?_, fun _ member => digit _ (List.mem_of_mem_take member), fun first => ?_, ?_⟩
  · simpa using filled
  · rw [List.head?_take, if_neg count.succ_ne_zero] at first
    exact absurd first needed
  · intro places given
    obtain ⟨more, rfl⟩ := parted places given
    refine ⟨fun none => ?_, fun _ member => digit _ (List.mem_of_mem_drop member)⟩
    have length := congrArg List.length none
    rw [List.length_drop, List.length_nil] at length
    omega

theorem wellFormed_pointed (significant : Significant digits) (leading : Int) :
    (pointed digits leading).WellFormed := by
  have zero : ∀ count, ∀ digit ∈ Decimal.zeros count, isDigit digit = true := by
    intro count digit member
    rw [List.eq_of_mem_replicate member]
    decide
  by_cases small : leading < 0
  · rw [pointed_of_neg small]
    refine ⟨List.cons_ne_nil _ _, ?_, fun _ => rfl, ?_⟩
    · exact List.forall_mem_singleton.mpr (by decide)
    · rintro _ ⟨⟩
      exact ⟨List.append_ne_nil_of_right_ne_nil _ significant.filled,
        List.forall_mem_append.mpr ⟨zero _, significant.digit⟩⟩
  by_cases short : digits.length ≤ leading.toNat + 1
  · rw [pointed_of_short small short]
    refine ⟨List.append_ne_nil_of_left_ne_nil significant.filled _,
      List.forall_mem_append.mpr ⟨significant.digit, zero _⟩, fun first => ?_, ?_⟩
    · rw [List.head?_append_of_ne_nil _ significant.filled] at first
      exact absurd first significant.needed
    · rintro _ ⟨⟩
      exact ⟨List.cons_ne_nil _ _, List.forall_mem_singleton.mpr (by decide)⟩
  · rw [pointed_of_long small short]
    apply wellFormed_take significant
    rintro _ ⟨⟩
    exact ⟨Nat.lt_of_not_le short, rfl⟩

theorem wellFormed_scientific (significant : Significant digits) (leading : Int) :
    (scientific digits leading).WellFormed := by
  apply wellFormed_take significant 0
  intro places given
  split at given
  case isTrue => cases given
  case isFalse long =>
    cases given
    exact ⟨Nat.lt_of_not_le long, rfl⟩

end Numeral

theorem exists_zeros (digits : List Char) :
    ∃ count, digits = Decimal.stripZeros digits ++ List.replicate count '0' := by
  have split := congrArg List.reverse
    (List.takeWhile_append_dropWhile (p := (· == '0')) (l := digits.reverse))
  rw [List.reverse_append, List.reverse_reverse] at split
  refine ⟨(digits.reverse.takeWhile (· == '0')).length, ?_⟩
  have zeros : digits.reverse.takeWhile (· == '0') =
      List.replicate (digits.reverse.takeWhile (· == '0')).length '0' := by
    apply List.eq_replicate_of_mem
    intro digit member
    have zero := List.mem_takeWhile_imp (p := (· == '0')) member
    exact eq_of_beq zero
  rw [← List.reverse_replicate, ← zeros]
  exact split.symm

/-- What is left of the digits of a positive number starts like them. -/
theorem significant_stripZeros {number : Nat} (positive : 0 < number) :
    Significant (Decimal.stripZeros (Nat.toDigits 10 number)) := by
  obtain ⟨count, split⟩ := exists_zeros (Nat.toDigits 10 number)
  have first := head?_toDigits_ne_zero positive
  have filled : Decimal.stripZeros (Nat.toDigits 10 number) ≠ [] := by
    intro none
    rw [none, List.nil_append] at split
    cases count with
    | zero => exact Nat.toDigits_ne_nil split
    | succ count => exact first (split ▸ rfl)
  refine ⟨filled, fun digit member => ?_, fun zero => first ?_⟩
  · have kept : digit ∈ Nat.toDigits 10 number := by
      rw [split]
      exact List.mem_append_left _ member
    exact isDigit_of_mem_toDigits kept
  · rw [split, List.head?_append_of_ne_nil _ filled]
    exact zero

/-- The zeros at the end of the digits count as places. -/
theorem value_stripZeros (decimal : Digits) :
    (numberOfDigits 10 (Decimal.stripZeros (Nat.toDigits 10 decimal.coefficient)) *
        10 ^ (decimal.exponent + (Nat.toDigits 10 decimal.coefficient).length -
          (Decimal.stripZeros (Nat.toDigits 10 decimal.coefficient)).length : Int) : ℚ) =
      decimal.value := by
  have number := numberOfDigits_toDigits decimal.coefficient
  obtain ⟨count, split⟩ := exists_zeros (Nat.toDigits 10 decimal.coefficient)
  have length := congrArg List.length split
  rw [split, numberOfDigits_append, numberOfDigits_zeros, List.length_replicate,
    Nat.add_zero] at number
  rw [List.length_append, List.length_replicate] at length
  have place : decimal.exponent + (Nat.toDigits 10 decimal.coefficient).length -
      (Decimal.stripZeros (Nat.toDigits 10 decimal.coefficient)).length =
        count + decimal.exponent := by
    omega
  rw [place, zpow_add₀ (by norm_num), zpow_natCast, Digits.value, ← mul_assoc]
  exact_mod_cast congrArg (fun number : Nat => (number * 10 ^ decimal.exponent : ℚ)) number

/-- The text of a positive decimal is a numeral of the same value, and not an integer. -/
theorem exists_numeral (decimal : Digits) (positive : 0 < decimal.coefficient) :
    ∃ numeral : Numeral, numeral.WellFormed ∧
      (numeral.fraction.isSome ∨ numeral.power.isSome) ∧
      numeral.text = documentLayout.digits decimal ∧
      numeral.digits.value = decimal.value := by
  let written := Nat.toDigits 10 decimal.coefficient
  let significant := Decimal.stripZeros written
  let leading : Int := decimal.exponent + written.length - 1
  have kept : Significant significant := significant_stripZeros positive
  have value : (numberOfDigits 10 significant * 10 ^ (leading + 1 - significant.length) : ℚ) =
      decimal.value := by
    rw [sub_add_cancel]
    exact value_stripZeros decimal
  have digits : documentLayout.digits decimal =
      if documentLayout.lowest ≤ leading ∧ leading < documentLayout.highest then
        Decimal.pointed significant leading
      else documentLayout.scientific significant leading := by
    have text : (toString decimal.coefficient).toList = written := Nat.toList_repr
    rw [Decimal.Layout.digits, text]
  by_cases near : documentLayout.lowest ≤ leading ∧ leading < documentLayout.highest
  · refine ⟨Numeral.pointed significant leading, Numeral.wellFormed_pointed kept leading,
      .inl (Numeral.isSome_pointed significant leading), ?_,
      (Numeral.value_pointed significant leading).trans value⟩
    rw [Numeral.text_pointed, digits, if_pos near]
  · refine ⟨Numeral.scientific significant leading,
      Numeral.wellFormed_scientific kept leading, .inr rfl, ?_,
      (Numeral.value_scientific kept.filled leading).trans value⟩
    rw [Numeral.text_scientific kept.filled, digits, if_neg near]

end Layout

/-- The text of a finite real is a numeral, with a sign, that rounds to it. -/
theorem exists_numeral_of_finite (negative : Bool) (magnitude : Decimal.Magnitude) :
    ∃ numeral : Numeral, numeral.WellFormed ∧
      (numeral.fraction.isSome ∨ numeral.power.isSome) ∧
      (documentLayout.finite negative magnitude).toList =
        (if negative then ['-'] else []) ++ numeral.text ∧
      magnitude.Takes numeral.digits.value := by
  have sign : (if negative then "-" else "" : String).toList =
      if negative then ['-'] else [] := by
    cases negative <;> rfl
  unfold Decimal.Layout.finite
  dsimp only
  split
  case isTrue none =>
    have digit : ∀ digit ∈ ['0'], isDigit digit = true :=
      List.forall_mem_singleton.mpr (by decide)
    let zero : Numeral := { whole := ['0'], fraction := some ['0'], power := Option.none }
    have value : zero.digits.value = 0 := by
      have number : zero.digits.coefficient = 0 := rfl
      rw [Digits.value, number, Nat.cast_zero, zero_mul]
    refine ⟨zero, ⟨List.cons_ne_nil _ _, digit, fun _ => rfl, ?_⟩, .inl rfl, ?_,
      value ▸ Decimal.Magnitude.takes_zero none⟩
    · intro places given
      cases given
      exact ⟨List.cons_ne_nil _ _, digit⟩
    · rw [String.toList_append, sign]
      rfl
  case isFalse some =>
    have positive := Nat.pos_of_ne_zero some
    have takes := Decimal.Magnitude.takes_shortest positive documentLayout.tie
    obtain ⟨numeral, formed, noInteger, text, value⟩ :=
      exists_numeral _ (Decimal.Magnitude.coefficient_pos_of_takes positive takes)
    refine ⟨numeral, formed, noInteger, ?_, value ▸ takes⟩
    rw [String.toList_append, String.toList_ofList, sign, text]

theorem toNat_lt_two_mul_signBit (bits : UInt64) :
    bits.toNat < 2 * Decimal.BinaryFormat.double.signBit := by
  have width : 2 * Decimal.BinaryFormat.double.signBit = UInt64.size := by
    norm_num [Decimal.BinaryFormat.signBit, Decimal.BinaryFormat.double, Decimal.powerOfTwo]
  rw [width]
  exact bits.toNat_lt

/-- Finite reals are read back bit by bit. -/
theorem reads_real {bits : UInt64} {magnitude : Decimal.Magnitude}
    (finite : realValue bits = .finite negative magnitude) (ends : EndsNumber rest) :
    readNumber.Reads (realNumber bits).toList rest (.real bits) := by
  obtain ⟨unsigned, below, written, rfl⟩ :=
    Decimal.BinaryFormat.exists_of_decode (toNat_lt_two_mul_signBit bits) finite
  obtain ⟨numeral, formed, noInteger, text, takes⟩ := exists_numeral_of_finite negative
    (Decimal.BinaryFormat.double.magnitude unsigned)
  have back : bits = .ofNat (unsigned +
      if negative then Decimal.BinaryFormat.double.signBit else 0) := by
    rw [← written, UInt64.ofNat_toNat]
  rw [realNumber, finite, back, text]
  exact reads_decimal formed ends noInteger below takes

end TestSynth.Json
