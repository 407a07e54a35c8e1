import GuardedGateway.Text.Bytes

/-!
# The bytes of a text

A text is its characters, and its bytes are the bytes of these, one after the other (`bytes_eq`).
So what is read from the bytes of a text can be followed character by character.  A character below
128 is one byte, its own number (`utf8EncodeChar_of_lt`); of any other no byte is below 128
(`le_of_mem_utf8EncodeChar`), so none of them is taken for a quote, a backslash or a control
character.
-/

namespace GuardedGateway.Text

@[simp] theorem bytes_append (a b : String) : bytes (a ++ b) = bytes a ++ bytes b := by
  simp [bytes, String.toByteArray_append]

/-- The bytes of some characters. -/
@[simp] theorem bytes_ofList (cs : List Char) :
    bytes (String.ofList cs) = cs.flatMap String.utf8EncodeChar := by
  simp [bytes, String.toByteArray_ofList, List.utf8Encode]

theorem bytes_eq (s : String) : bytes s = s.toList.flatMap String.utf8EncodeChar := by
  conv => lhs; rw [← String.ofList_toList (s := s)]
  exact bytes_ofList s.toList

/-- A text is read back from its bytes. -/
@[simp] theorem ofBytes?_bytes (s : String) : ofBytes? (bytes s) = some s := by
  have harray : (⟨(bytes s).toArray⟩ : ByteArray) = s.toByteArray := by
    simp [bytes]
  rw [ofBytes?, harray, String.fromUTF8?, dif_pos s.isValidUTF8]
  rfl

/-- A character below 128 is one byte. -/
theorem utf8EncodeChar_of_lt {c : Char} (h : c.toNat < 128) :
    String.utf8EncodeChar c = [UInt8.ofNat c.toNat] := by
  have hlow : c.val.toNat ≤ 127 := Nat.lt_succ_iff.mp h
  simp only [String.utf8EncodeChar, if_pos hlow]
  rfl

/-- No byte of another character is below 128. -/
theorem le_of_mem_utf8EncodeChar {c : Char} (h : 128 ≤ c.toNat) {b : UInt8}
    (hb : b ∈ String.utf8EncodeChar c) : 128 ≤ b := by
  have hhigh : ¬ c.val.toNat ≤ 127 := Nat.not_le.mpr h
  have hmark (n : Nat) (hlow : 128 ≤ n) (hbyte : n < 256) : 128 ≤ UInt8.ofNat n := by
    rw [UInt8.le_iff_toNat_le, UInt8.toNat_ofNat_of_lt' hbyte]
    exact hlow
  simp only [String.utf8EncodeChar, if_neg hhigh] at hb
  split at hb
  · simp only [List.mem_cons, List.not_mem_nil, or_false] at hb
    obtain rfl | rfl := hb <;> exact hmark _ (by omega) (by omega)
  · split at hb
    · simp only [List.mem_cons, List.not_mem_nil, or_false] at hb
      obtain rfl | rfl | rfl := hb <;> exact hmark _ (by omega) (by omega)
    · simp only [List.mem_cons, List.not_mem_nil, or_false] at hb
      obtain rfl | rfl | rfl | rfl := hb <;> exact hmark _ (by omega) (by omega)

end GuardedGateway.Text
