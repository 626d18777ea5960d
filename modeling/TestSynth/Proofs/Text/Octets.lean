import Mathlib.Data.List.Basic

/-!
# Octets of texts

The bytes in which a text is written, as a list: there are as many as the text takes up,
and none of them is the largest one, which marks the end of a text elsewhere.
-/

namespace TestSynth

theorem toNat_lt_of_mem_utf8EncodeChar {letter : Char} {byte : UInt8}
    (member : byte ∈ String.utf8EncodeChar letter) : byte.toNat < 255 := by
  unfold String.utf8EncodeChar at member
  simp only at member
  split at member
  · rw [List.mem_singleton] at member
    rw [member, UInt8.toNat_ofNat']
    omega
  · split at member
    · simp only [List.mem_cons, List.not_mem_nil, or_false] at member
      rcases member with rfl | rfl <;> rw [UInt8.toNat_ofNat'] <;> omega
    · split at member
      · simp only [List.mem_cons, List.not_mem_nil, or_false] at member
        rcases member with rfl | rfl | rfl <;> rw [UInt8.toNat_ofNat'] <;> omega
      · simp only [List.mem_cons, List.not_mem_nil, or_false] at member
        rcases member with rfl | rfl | rfl | rfl <;> rw [UInt8.toNat_ofNat'] <;> omega

private theorem toList_loop (bytes : ByteArray) (start : Nat) (read : List UInt8) :
    ByteArray.toList.loop bytes start read = read.reverse ++ bytes.data.toList.drop start := by
  fun_induction ByteArray.toList.loop bytes start read with
  | case1 start read inside ih =>
      have there : start < bytes.data.toList.length := inside
      have value : bytes.get! start = bytes.data[start]! := rfl
      rw [ih, List.drop_eq_getElem_cons there, value, getElem!_pos bytes.data start inside]
      simp
  | case2 start read outside =>
      rw [List.drop_eq_nil_of_le (Nat.le_of_not_lt outside), List.append_nil]

theorem toList_toUTF8 (content : String) :
    content.toUTF8.toList = content.toByteArray.data.toList := by
  rw [ByteArray.toList, toList_loop, List.reverse_nil, List.nil_append, List.drop_zero,
    String.toUTF8_eq_toByteArray]

theorem length_toUTF8 (content : String) :
    content.toUTF8.toList.length = content.utf8ByteSize := by
  rw [toList_toUTF8]
  rfl

end TestSynth
