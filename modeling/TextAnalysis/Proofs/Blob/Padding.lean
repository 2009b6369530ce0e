import Mathlib.Data.List.Induction
import Mathlib.Data.Nat.Digits.Defs
import TextAnalysis.Proofs.Blob.SizePrefix

/-!
# Size prefixes with leading zeros

What is read as a size prefix is what is written for the size, after zeros if there is room for them in five
bytes. So what is written is the shortest prefix of a size, and no prefix begins another.
-/

namespace TextAnalysis.Blob

/-! ### Groups and their number -/

/-- Groups of seven bits are the digits of their number to the base 128. -/
theorem groupsValue_eq_ofDigits (groups : List UInt8) :
    groupsValue 0 groups = Nat.ofDigits 128 (groups.reverse.map fun b => b.toNat % 128) := by
  induction groups using List.reverseRecOn with
  | nil => rfl
  | append_singleton groups b ih =>
    rw [groupsValue_concat, List.reverse_concat, List.map_cons, Nat.ofDigits_cons, ih]
    exact Nat.add_comm ..

/-- Zeros in front add nothing to a number. -/
theorem groupsValue_replicate_append (zeros : Nat) (groups : List UInt8) :
    groupsValue 0 (List.replicate zeros 0 ++ groups) = groupsValue 0 groups := by
  induction zeros with
  | zero => rfl
  | succ zeros ih => exact ih

theorem leadingGroups_zero (fuel : Nat) : leadingGroups fuel 0 = [] := by
  cases fuel <;> rfl

/-- Groups with the high bit clear are those of their number, after zeros. -/
theorem exists_eq_append_leadingGroups {fuel : Nat} {groups : List UInt8} (few : groups.length ≤ fuel)
    (clear : ∀ b ∈ groups, b.toNat < 128) :
    ∃ zeros, groups = List.replicate zeros 0 ++ leadingGroups fuel (groupsValue 0 groups) := by
  induction groups using List.reverseRecOn generalizing fuel with
  | nil => exact ⟨0, (leadingGroups_zero fuel).symm⟩
  | append_singleton groups b ih =>
    -- The last group comes first, as `leadingGroups` has it. It is left out only where all of the number is zero.
    obtain ⟨clear, clearLast⟩ := List.forall_mem_append.mp clear
    replace clearLast := clearLast b List.mem_cons_self
    rw [List.length_append, List.length_singleton] at few
    cases fuel with
    | zero => omega
    | succ fuel =>
      obtain ⟨zeros, eq⟩ := ih (Nat.le_of_succ_le_succ few) clear
      rw [groupsValue_concat, Nat.mod_eq_of_lt clearLast, leadingGroups]
      split
      · next none =>
        have value : groupsValue 0 groups = 0 := by omega
        have last : b = 0 := UInt8.toNat_inj.mp (by rw [UInt8.toNat_zero]; omega)
        rw [value, leadingGroups_zero, List.append_nil] at eq
        exact ⟨zeros + 1, by rw [eq, last, List.append_nil, List.replicate_succ']⟩
      · have value : (128 * groupsValue 0 groups + b.toNat) / 128 = groupsValue 0 groups := by omega
        have last : (128 * groupsValue 0 groups + b.toNat) % 128 = b.toNat := by omega
        rw [value, last, UInt8.ofNat_toNat]
        exact ⟨zeros, by rw [← List.append_assoc, ← eq]⟩

/-! ### Prefixes and what is written -/

private theorem exists_eq_replicate_append_iff {front written : List UInt8} :
    (∃ zeros, front = List.replicate zeros 0 ++ written) ↔
      front = List.replicate (front.length - written.length) 0 ++ written := by
  constructor
  · rintro ⟨zeros, rfl⟩
    rw [List.length_append, List.length_replicate, Nat.add_sub_cancel]
  · exact fun eq => ⟨_, eq⟩

theorem length_encodeSize (n : Nat) :
    (encodeSize n).length = (leadingGroups (greatestPrefixLength - 1) (n / 128)).length + 1 :=
  List.length_append

/-- The bytes are a prefix of a size just if they are what is written for it after zeros, at most five in all. -/
theorem isSizePrefix_iff {size : Nat} {front : List UInt8} :
    IsSizePrefix size front ↔ size < sizeLimit ∧ front.length ≤ greatestPrefixLength ∧
      ∃ zeros, front = List.replicate zeros 0 ++ encodeSize size := by
  constructor
  · rintro (@⟨leading, last, few, clear, set, value, small⟩)
    obtain ⟨zeros, eq⟩ := exists_eq_append_leadingGroups (Nat.le_pred_of_lt few) clear
    rw [groupsValue_concat] at value
    have before : size / 128 = groupsValue 0 leading := by omega
    have final : 128 + size % 128 = last.toNat := by
      have := last.toNat_lt
      omega
    refine ⟨small, ?_, zeros, ?_⟩
    · rw [List.length_append, List.length_singleton]
      exact few
    · rw [encodeSize, before, final, UInt8.ofNat_toNat, ← List.append_assoc]
      exact congrArg (· ++ [last]) eq
  · rintro ⟨small, few, zeros, rfl⟩
    have clear : ∀ b ∈ List.replicate zeros 0 ++ leadingGroups (greatestPrefixLength - 1) (size / 128),
        b.toNat < 128 := by
      rintro b mem
      obtain mem | mem := List.mem_append.mp mem
      · rw [List.eq_of_mem_replicate mem]
        decide
      · exact toNat_lt_of_mem_leadingGroups mem
    have last : (UInt8.ofNat (128 + size % 128)).toNat = 128 + size % 128 := by
      rw [UInt8.toNat_ofNat']
      omega
    have fits : size / 128 < 128 ^ (greatestPrefixLength - 1) := by
      simp only [sizeLimit] at small
      simp only [greatestPrefixLength]
      omega
    rw [List.length_append, length_encodeSize] at few
    rw [encodeSize, ← List.append_assoc]
    refine .groups ?_ clear (by omega) ?_ small
    · rw [List.length_append, List.length_replicate]
      rw [List.length_replicate] at few
      omega
    · rw [groupsValue_concat, groupsValue_replicate_append, groupsValue_leadingGroups fits, last]
      omega

/-! ### Reading -/

/-- All that is read of some bytes is their front just if this is a prefix, whatever follows it. -/
theorem decodeSize_append_eq_ok_iff {size : Nat} {front rest : List UInt8} :
    decodeSize (front ++ rest) = .ok (size, rest) ↔ IsSizePrefix size front := by
  rw [decodeSize_eq_ok_iff]
  constructor
  · rintro ⟨front', eq, isPrefix⟩
    rwa [List.append_cancel_right eq]
  · intro isPrefix
    exact ⟨front, rfl, isPrefix⟩

/-- The bytes of a prefix, told by their places. -/
private theorem decodeSize_eq_ok_iff_take {size : Nat} {bytes rest : List UInt8} :
    decodeSize bytes = .ok (size, rest) ↔ ∃ k, 1 ≤ k ∧ k ≤ 5 ∧ (∀ b ∈ bytes.take (k - 1), b.toNat < 128) ∧
      (∃ last, bytes[k - 1]? = some last ∧ 128 ≤ last.toNat) ∧
      Nat.ofDigits 128 ((bytes.take k).reverse.map fun b => b.toNat % 128) = size ∧ size < 2 ^ 32 ∧
      rest = bytes.drop k := by
  have taken {bytes : List UInt8} {k : Nat} {last : UInt8} (place : bytes[k]? = some last) :
      bytes.take (k + 1) = bytes.take k ++ [last] := by
    rw [List.take_add_one, place, Option.toList_some]
  rw [decodeSize, decodeGroups_eq_ok_iff]
  constructor
  · rintro ⟨leading, last, rfl, few, clear, set, value, small⟩
    have place : (leading ++ last :: rest)[leading.length]? = some last := by
      rw [List.getElem?_append_right (Nat.le_refl _), Nat.sub_self, List.getElem?_cons_zero]
    refine ⟨leading.length + 1, Nat.le_add_left .., few, ?_, ⟨last, place, set⟩, ?_, small, ?_⟩
    · rwa [Nat.add_sub_cancel, List.take_left]
    · rw [taken place, List.take_left, ← groupsValue_eq_ofDigits, value]
    · rw [List.append_cons]
      exact (List.drop_left' (by rw [List.length_append, List.length_singleton])).symm
  · rintro ⟨k, pos, few, clear, ⟨last, place, set⟩, value, small, rfl⟩
    obtain ⟨k, rfl⟩ := Nat.exists_eq_add_of_le' pos
    rw [Nat.add_sub_cancel] at clear place
    refine ⟨bytes.take k, last, ?_, ?_, clear, set, ?_, small⟩
    · rw [List.append_cons, ← taken place, List.take_append_drop]
    · rw [List.length_take]
      simp only [greatestPrefixLength]
      omega
    · rw [← taken place, groupsValue_eq_ofDigits, value]

/-- A size is read just if a byte among the first five has its high bit set and the seven-bit groups up to the
first such byte spell a number of 32 bits; this is the size, and the bytes after it are left. Otherwise there is
no such byte or the number is too great. Whatever is written for a size is read back, and what is read as a size
is what is written for it after zeros that fit in five bytes. So what is written is the one shortest prefix of a
size, and no prefix begins another. -/
theorem decodeSize_padded :
    (∀ bytes size rest, decodeSize bytes = .ok (size, rest) ↔
      ∃ k, 1 ≤ k ∧ k ≤ 5 ∧ (∀ b ∈ bytes.take (k - 1), b.toNat < 128) ∧
        (∃ last, bytes[k - 1]? = some last ∧ 128 ≤ last.toNat) ∧
        Nat.ofDigits 128 ((bytes.take k).reverse.map fun b => b.toNat % 128) = size ∧ size < 2 ^ 32 ∧
        rest = bytes.drop k) ∧
    (∀ bytes, decodeSize bytes = .error .incomplete ↔ ∀ b ∈ bytes.take 5, b.toNat < 128) ∧
    (∀ (size : UInt32) rest, decodeSize (encodeSize size.toNat ++ rest) = .ok (size.toNat, rest)) ∧
    (∀ front size rest, decodeSize (front ++ rest) = .ok (size, rest) ↔
      size < 2 ^ 32 ∧ front.length ≤ 5 ∧
        front = List.replicate (front.length - (encodeSize size).length) 0 ++ encodeSize size) ∧
    (∀ front size, decodeSize front = .ok (size, []) →
      (encodeSize size).length ≤ front.length ∧
        (front.length = (encodeSize size).length → front = encodeSize size)) ∧
    ∀ front front' size size', decodeSize front = .ok (size, []) → decodeSize front' = .ok (size', []) →
      front <+: front' → front = front' := by
  have whole {front size} (read : decodeSize front = .ok (size, [])) : IsSizePrefix size front :=
    decodeSize_append_eq_ok_iff.mp (by rwa [List.append_nil])
  refine ⟨fun _ _ _ => decodeSize_eq_ok_iff_take, fun _ => decodeGroups_eq_incomplete_iff, ?_, ?_, ?_, ?_⟩
  · intro size rest
    exact decodeSize_encodeSize_append size.toNat_lt rest
  · intro front size rest
    rw [decodeSize_append_eq_ok_iff, isSizePrefix_iff, exists_eq_replicate_append_iff]
    rfl
  · intro front size read
    obtain ⟨-, -, zeros, rfl⟩ := isSizePrefix_iff.mp (whole read)
    rw [List.length_append, List.length_replicate]
    refine ⟨Nat.le_add_left .., fun same => ?_⟩
    obtain rfl : zeros = 0 := by omega
    rfl
  · rintro front _ size size' read read' ⟨rest, rfl⟩
    rw [decodeSize_append_eq_ok_iff.mpr (whole read)] at read'
    obtain ⟨-, rfl⟩ := Prod.mk.inj (Except.ok.inj read')
    rw [List.append_nil]

/-- There is room for three zeros before the two bytes of 300, and no room for a fourth. -/
example : decodeSize [0, 0, 0, 0x02, 0xAC, 7] = .ok (300, [7]) ∧
    decodeSize [0, 0, 0, 0, 0x02, 0xAC] = .error .incomplete := by
  decide

end TextAnalysis.Blob
