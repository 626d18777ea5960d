import TestSynth.Json.Printer
import TestSynth.Proofs.Json.Digits

/-!
# Reading strings back

Every character of a string is read back from what is written for it.
-/

namespace TestSynth.Json

open Text

/-- Two digits of base sixteen are enough for a control character. -/
theorem hexDigits_of_control : ∀ code < 0x20,
    ['0', '0', hexDigit (code / 16), hexDigit code].all isHexDigit = true ∧
      numberOfDigits 16 ['0', '0', hexDigit (code / 16), hexDigit code] = code := by
  decide

theorem reads_control {character : Char} (control : character.toNat < 0x20)
    (rest : List Char) :
    readEscapedUnit.Reads
      ['0', '0', hexDigit (character.toNat / 16), hexDigit character.toNat] rest
      character := by
  obtain ⟨digits, number⟩ := hexDigits_of_control character.toNat control
  have unit : readUnit.Reads
      ['0', '0', hexDigit (character.toNat / 16), hexDigit character.toNat] rest
      character.toNat := by
    have taken := (Reader.reads_takeExactly (List.all_eq_true.mp digits) rest).map
      (numberOfDigits 16)
    rwa [number] at taken
  refine unit.bind_pure ?_
  have noHigh : (decide (0xD800 ≤ character.toNat) && decide (character.toNat < 0xDC00)) =
      false := by
    simp [control.trans (by decide : 0x20 < 0xD800)]
  have noLow : (decide (0xDC00 ≤ character.toNat) && decide (character.toNat < 0xE000)) =
      false := by
    simp [control.trans (by decide : 0x20 < 0xDC00)]
  rw [noHigh, noLow, Char.ofNat_toNat]
  exact Reader.reads_pure character rest

theorem reads_char (character : Char) (rest : List Char) :
    readChar.Reads (escapeChar character) rest character := by
  unfold escapeChar
  split
  case isTrue same => subst same; rfl
  case isFalse noQuote =>
    split
    case isTrue same => subst same; rfl
    case isFalse noBackslash =>
      repeat
        split
        case isTrue same => subst same; rfl
      split
      case isTrue control =>
        refine (Reader.reads_oneOf (by decide) _).bind ?_
        rw [if_pos rfl]
        exact (Reader.reads_oneOf rfl _).bind (reads_control control rest)
      case isFalse visible =>
        have stands : (character != '"' && decide (0x20 ≤ character.toNat)) = true := by
          simp [noQuote, not_lt.mp visible]
        refine (Reader.reads_oneOf stands rest).bind_pure ?_
        rw [if_neg noBackslash]
        exact Reader.reads_pure character rest

theorem escapeChar_ne_nil (character : Char) : escapeChar character ≠ [] := by
  unfold escapeChar
  repeat
    split
    · exact List.cons_ne_nil _ _
  exact List.cons_ne_nil _ _

theorem toList_quote (text : String) :
    (quote text).toList = '"' :: (text.toList.flatMap escapeChar ++ ['"']) := by
  have mark : "\"".toList = ['"'] := rfl
  rw [quote, String.toList_append, String.toList_append, mark, String.toList_ofList,
    List.append_assoc, List.singleton_append]

/-- The quote at the end is no character of the string. -/
theorem reads_quote (text : String) (rest : List Char) :
    readString.Reads (quote text).toList rest text := by
  let items := text.toList.map fun character => (escapeChar character, character)
  have characters : (Reader.repeated readChar).Reads (items.flatMap (·.1)) ('"' :: rest)
      (items.map (·.2)) := by
    refine Reader.reads_repeated (fun _ => True) ?_ (fun _ _ _ => trivial) ?_ trivial ?_
    · intro item member rest _
      obtain ⟨character, _, rfl⟩ := List.mem_map.mp member
      exact reads_char character rest
    · intro item member
      obtain ⟨character, _, rfl⟩ := List.mem_map.mp member
      exact escapeChar_ne_nil character
    · exact (Reader.refuses_oneOf rfl rest).bind
  have fronts : items.flatMap (·.1) = text.toList.flatMap escapeChar := by
    rw [List.flatMap_map]
  have values : items.map (·.2) = text.toList := by
    rw [List.map_map]
    exact List.map_id' _
  rw [fronts, values] at characters
  rw [toList_quote]
  refine (Reader.reads_char '"' _).bind (characters.bind ?_)
  refine (Reader.reads_char '"' rest).bind_pure ?_
  rw [String.ofList_toList]
  exact Reader.reads_pure text rest

end TestSynth.Json
