import TextAnalysis.Text.Utf8

/-!
# Laws of UTF-8

A text is read back from its bytes, and some bytes stand in no text.
-/

namespace TextAnalysis.Text

/-- A text is what its bytes stand for. -/
theorem ofBytes?_toBytes (s : String) : ofBytes? (toBytes s) = some s := by
  have valid : ByteArray.IsValidUTF8 ⟨s.toByteArray.data.toList.toArray⟩ := s.isValidUTF8
  exact dif_pos valid

/-- The bytes of a text are those of its characters. -/
theorem toBytes_eq (s : String) : toBytes s = s.toList.flatMap String.utf8EncodeChar := by
  rw [toBytes, ← String.ofList_toList (s := s), String.toByteArray_ofList, List.utf8Encode,
    List.toList_data_toByteArray, String.toList_ofList]

/-- A character takes one to four bytes, of which the first tells how many. In none are the five highest
bits all set. -/
theorem toNat_lt_of_mem_utf8EncodeChar {c : Char} {b : UInt8} (h : b ∈ String.utf8EncodeChar c) :
    b.toNat < 0xF8 := by
  have byte {n : Nat} (small : n < 0xF8) : (UInt8.ofNat n).toNat < 0xF8 := by
    rw [UInt8.toNat_ofNat']
    exact Nat.lt_of_le_of_lt (Nat.mod_le n _) small
  rw [String.utf8EncodeChar] at h
  split at h
  · obtain rfl := List.mem_singleton.mp h
    exact byte (by omega)
  split at h
  · simp only [List.mem_cons, List.not_mem_nil, or_false] at h
    rcases h with rfl | rfl <;> exact byte (by omega)
  split at h
  · simp only [List.mem_cons, List.not_mem_nil, or_false] at h
    rcases h with rfl | rfl | rfl <;> exact byte (by omega)
  · simp only [List.mem_cons, List.not_mem_nil, or_false] at h
    rcases h with rfl | rfl | rfl | rfl <;> exact byte (by omega)

/-- No byte of a text has its five highest bits all set. -/
theorem toNat_lt_of_mem_toBytes {s : String} {b : UInt8} (h : b ∈ toBytes s) : b.toNat < 0xF8 := by
  rw [toBytes_eq] at h
  obtain ⟨c, -, h⟩ := List.mem_flatMap.mp h
  exact toNat_lt_of_mem_utf8EncodeChar h

end TextAnalysis.Text
