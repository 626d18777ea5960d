import Mathlib.Data.List.Basic
import Mathlib.Tactic.Ring
import TestSynth.Json.Reader
import TestSynth.Proofs.Text.Reading

/-!
# Reading digits back

Digits without a needless zero in front are read as they are written, and stand for the
number that they were made of.
-/

namespace TestSynth

namespace Text

theorem isDigit_of_mem_toDigits {number : Nat} {digit : Char}
    (member : digit ∈ Nat.toDigits 10 number) : isDigit digit = true :=
  Nat.isDigit_of_mem_toDigits (by decide) (by decide) member

theorem numberOfDigits_toDigits (number : Nat) :
    numberOfDigits 10 (Nat.toDigits 10 number) = number := by
  have same : ∀ (digits : List Char), (∀ digit ∈ digits, isDigit digit = true) →
      ∀ start, digits.foldl (fun number digit => number * 10 + digitValue digit) start =
        Nat.ofDigitChars 10 digits start := by
    intro digits
    induction digits with
    | nil => exact fun _ _ => rfl
    | cons digit rest ih =>
        intro all start
        obtain ⟨here, later⟩ := List.forall_mem_cons.mp all
        rw [List.foldl_cons, ih later, Nat.ofDigitChars_cons, Nat.mul_comm]
        simp only [digitValue, here, if_true]
  exact (same _ (fun _ => isDigit_of_mem_toDigits) 0).trans
    (Nat.ofDigitChars_toDigits (by decide) (by decide))

/-- No needless zero is written in front. -/
theorem head?_toDigits_ne_zero {number : Nat} (positive : 0 < number) :
    (Nat.toDigits 10 number).head? ≠ some '0' := by
  induction number using Nat.strongRecOn with
  | ind number ih =>
      rcases Nat.lt_or_ge number 10 with small | large
      · rw [Nat.toDigits_of_lt_base small, List.head?_cons]
        intro zero
        have none := Nat.digitChar_eq_zero.mp (Option.some.inj zero)
        omega
      · rw [Nat.toDigits_of_base_le (by decide) large,
          List.head?_append_of_ne_nil _ Nat.toDigits_ne_nil]
        exact ih (number / 10) (by omega) (by omega)

/-- Only zero starts with a zero. -/
theorem length_toDigits_of_zero {number : Nat}
    (zero : (Nat.toDigits 10 number).head? = some '0') :
    (Nat.toDigits 10 number).length = 1 := by
  rcases Nat.eq_zero_or_pos number with rfl | positive
  · rfl
  · exact absurd zero (head?_toDigits_ne_zero positive)

theorem toList_toString_int (value : Int) :
    (toString value).toList =
      (if value < 0 then ['-'] else []) ++ Nat.toDigits 10 value.natAbs := by
  cases value with
  | ofNat magnitude => exact Nat.toList_repr
  | negSucc magnitude =>
      have sign : toString (Int.negSucc magnitude) = "-" ++ Nat.repr (magnitude + 1) := rfl
      rw [sign, String.toList_append, Nat.toList_repr, if_pos (Int.negSucc_lt_zero magnitude)]
      rfl

theorem numberOfDigits_append (left right : List Char) :
    numberOfDigits 10 (left ++ right) =
      numberOfDigits 10 left * 10 ^ right.length + numberOfDigits 10 right := by
  have from_start : ∀ (digits : List Char) (start : Nat),
      digits.foldl (fun number digit => number * 10 + digitValue digit) start =
        start * 10 ^ digits.length + numberOfDigits 10 digits := by
    intro digits
    induction digits with
    | nil => simp [numberOfDigits]
    | cons digit rest ih =>
        intro start
        rw [numberOfDigits, List.foldl_cons, List.foldl_cons, ih, ih, List.length_cons]
        ring
  rw [numberOfDigits, List.foldl_append, from_start]
  rfl

theorem numberOfDigits_zeros (count : Nat) :
    numberOfDigits 10 (List.replicate count '0') = 0 := by
  induction count with
  | zero => rfl
  | succ count ih =>
      rw [List.replicate_succ', numberOfDigits_append, ih]
      rfl

/-- The text does not go on with a digit. -/
def EndsDigits (rest : List Char) : Prop :=
  ∀ character ∈ rest.head?, isDigit character = false

end Text

namespace Json

open Text

theorem reads_whole {digits rest : List Char} (filled : digits ≠ [])
    (all : ∀ digit ∈ digits, isDigit digit = true)
    (needed : digits.head? = some '0' → digits.length = 1) (ends : EndsDigits rest) :
    readWhole.Reads digits rest digits := by
  have taken : (Reader.takeSome isDigit).Reads digits rest digits :=
    Reader.reads_takeSome filled all ends
  refine taken.bind_pure ?_
  have canonical :
      ¬ (decide (digits.head? = some '0') && decide (digits.length ≠ 1)) = true := by
    simpa using needed
  rw [if_neg canonical]
  exact Reader.reads_pure _ rest

theorem reads_toDigits (number : Nat) {rest : List Char} (ends : EndsDigits rest) :
    readWhole.Reads (Nat.toDigits 10 number) rest (Nat.toDigits 10 number) :=
  reads_whole Nat.toDigits_ne_nil (fun _ => isDigit_of_mem_toDigits)
    length_toDigits_of_zero ends

/-- Digits have no sign in front. -/
theorem reads_unsigned {digits rest : List Char} (filled : digits ≠ [])
    (all : ∀ digit ∈ digits, isDigit digit = true) :
    (Reader.optional (Reader.char '-')).Reads [] (digits ++ rest) none := by
  apply Reader.Refuses.optional
  cases digits with
  | nil => exact absurd rfl filled
  | cons digit others =>
      apply Reader.refuses_char
      rintro rfl
      exact absurd (all '-' List.mem_cons_self) (by decide)

end Json

end TestSynth
