import Mathlib.Algebra.Group.Nat.Defs
import TextAnalysis.Blob.SizePrefix
import TextAnalysis.Proofs.Blob.Cut

/-!
# Laws of size prefixes

A size that can be written is read back, and the bytes after its prefix are left. A prefix that is cut off
is not taken for another size.
-/

namespace TextAnalysis.Blob

/-- The number that the groups of seven bits add to a number before them. -/
def groupsValue (n : Nat) (groups : List UInt8) : Nat :=
  groups.foldl (fun n b => 128 * n + b.toNat % 128) n

theorem groupsValue_concat (n : Nat) (groups : List UInt8) (b : UInt8) :
    groupsValue n (groups ++ [b]) = 128 * groupsValue n groups + b.toNat % 128 := by
  simp [groupsValue]

/-- Every group before the last has its high bit clear. -/
theorem toNat_lt_of_mem_leadingGroups {fuel n : Nat} {b : UInt8} (h : b ∈ leadingGroups fuel n) :
    b.toNat < 128 := by
  induction fuel generalizing n with
  | zero => simp [leadingGroups] at h
  | succ fuel ih =>
    rw [leadingGroups] at h
    split at h
    · simp at h
    · rcases List.mem_append.mp h with h | h
      · exact ih h
      · rw [List.mem_singleton.mp h, UInt8.toNat_ofNat']
        omega

/-- The fuel bounds the number of groups. -/
theorem length_leadingGroups_le (fuel n : Nat) : (leadingGroups fuel n).length ≤ fuel := by
  induction fuel generalizing n with
  | zero => simp [leadingGroups]
  | succ fuel ih =>
    rw [leadingGroups]
    split
    · simp
    · have := ih (n / 128)
      simp only [List.length_append, List.length_singleton]
      omega

/-- A number for which the fuel suffices has its own groups. -/
theorem groupsValue_leadingGroups {fuel n : Nat} (h : n < 128 ^ fuel) :
    groupsValue 0 (leadingGroups fuel n) = n := by
  induction fuel generalizing n with
  | zero =>
    obtain rfl : n = 0 := by simpa using h
    rfl
  | succ fuel ih =>
    rw [leadingGroups]
    split
    · next hn => simp [groupsValue, hn]
    · have smaller : n / 128 < 128 ^ fuel := by
        rw [Nat.div_lt_iff_lt_mul (by decide)]
        rwa [Nat.pow_succ] at h
      rw [groupsValue_concat, ih smaller, UInt8.toNat_ofNat']
      omega

/-- Groups with the high bit clear are all passed over. -/
theorem decodeGroups_append (fuel n : Nat) {groups : List UInt8} (h : ∀ b ∈ groups, b.toNat < 128)
    (rest : List UInt8) :
    decodeGroups (groups.length + fuel) n (groups ++ rest) =
      decodeGroups fuel (groupsValue n groups) rest := by
  induction groups generalizing n with
  | nil => simp [groupsValue]
  | cons b groups ih =>
    obtain ⟨hb, h⟩ := List.forall_mem_cons.mp h
    rw [List.length_cons, Nat.add_right_comm, List.cons_append, decodeGroups, if_pos hb, ih _ h]
    rfl

/-- A prefix is incomplete just if none of the bytes that may belong to it has its high bit set. -/
theorem decodeGroups_eq_incomplete_iff {fuel n : Nat} {bytes : List UInt8} :
    decodeGroups fuel n bytes = .error .incomplete ↔ ∀ b ∈ bytes.take fuel, b.toNat < 128 := by
  induction fuel generalizing n bytes with
  | zero => simp [decodeGroups]
  | succ fuel ih =>
    cases bytes with
    | nil => simp [decodeGroups]
    | cons b bytes =>
      rw [decodeGroups, List.take_succ_cons, List.forall_mem_cons]
      split
      · next clear => rw [ih, and_iff_right clear]
      · next set =>
        split
        · simp [set]
        · simp [set]

/-- Groups with the high bit clear are read up to the first byte that has it set, if there is fuel for all
of them and the number that they make is a size. -/
theorem decodeGroups_eq_ok_iff {fuel n size : Nat} {bytes rest : List UInt8} :
    decodeGroups fuel n bytes = .ok (size, rest) ↔
      ∃ leading last, bytes = leading ++ last :: rest ∧ leading.length < fuel ∧
        (∀ b ∈ leading, b.toNat < 128) ∧ 128 ≤ last.toNat ∧
        groupsValue n (leading ++ [last]) = size ∧ size < sizeLimit := by
  constructor
  · intro h
    induction fuel generalizing n bytes with
    | zero => cases h
    | succ fuel ih =>
      cases bytes with
      | nil => cases h
      | cons b bytes =>
        rw [decodeGroups] at h
        split at h
        · next clear =>
          obtain ⟨leading, last, rfl, few, allClear, set, value, small⟩ := ih h
          refine ⟨b :: leading, last, rfl, Nat.succ_lt_succ few, ?_, set, value, small⟩
          exact List.forall_mem_cons.mpr ⟨clear, allClear⟩
        · next set =>
          split at h
          · next small =>
            obtain ⟨rfl, rfl⟩ := Prod.mk.inj (Except.ok.inj h)
            exact ⟨[], b, rfl, Nat.succ_pos fuel, by simp, Nat.not_lt.mp set, rfl, small⟩
          · cases h
  · rintro ⟨leading, last, rfl, few, clear, set, rfl, small⟩
    obtain ⟨more, rfl⟩ := Nat.exists_eq_add_of_lt few
    rw [groupsValue_concat] at small ⊢
    rw [Nat.add_assoc, decodeGroups_append _ _ clear, decodeGroups, if_neg (Nat.not_lt.mpr set),
      if_pos small]

/-- The bytes are a size prefix of `size`: at most five groups of seven bits, the most significant first, of
which the last one alone has its high bit set. Leading zeros do no harm. -/
inductive IsSizePrefix (size : Nat) : List UInt8 → Prop
  | groups {leading : List UInt8} {last : UInt8} (few : leading.length < greatestPrefixLength)
      (clear : ∀ b ∈ leading, b.toNat < 128) (set : 128 ≤ last.toNat)
      (value : groupsValue 0 (leading ++ [last]) = size) (small : size < sizeLimit) :
      IsSizePrefix size (leading ++ [last])

/-- A size is read exactly where its prefix stands in front. -/
theorem decodeSize_eq_ok_iff {size : Nat} {bytes rest : List UInt8} :
    decodeSize bytes = .ok (size, rest) ↔ ∃ front, bytes = front ++ rest ∧ IsSizePrefix size front := by
  rw [decodeSize, decodeGroups_eq_ok_iff]
  constructor
  · rintro ⟨leading, last, rfl, few, clear, set, value, small⟩
    exact ⟨leading ++ [last], List.append_cons .., .groups few clear set value small⟩
  · rintro ⟨_, rfl, few, clear, set, value, small⟩
    exact ⟨_, _, (List.append_cons ..).symm, few, clear, set, value, small⟩

/-- A size is read back, whatever follows it. -/
theorem decodeSize_encodeSize_append {n : Nat} (h : n < sizeLimit) (rest : List UInt8) :
    decodeSize (encodeSize n ++ rest) = .ok (n, rest) := by
  have small : n / 128 < 128 ^ 4 := by
    simp only [sizeLimit] at h
    omega
  have clear : ∀ b ∈ leadingGroups 4 (n / 128), b.toNat < 128 := fun _ => toNat_lt_of_mem_leadingGroups
  have fuel : greatestPrefixLength =
      (leadingGroups 4 (n / 128)).length + (4 - (leadingGroups 4 (n / 128)).length + 1) := by
    have := length_leadingGroups_le 4 (n / 128)
    simp only [greatestPrefixLength]
    omega
  have last : (UInt8.ofNat (128 + n % 128)).toNat = 128 + n % 128 := by
    rw [UInt8.toNat_ofNat']
    omega
  have value : 128 * (n / 128) + (128 + n % 128) % 128 = n := by omega
  change decodeGroups greatestPrefixLength 0 (leadingGroups 4 (n / 128) ++ _ ++ rest) = _
  rw [List.append_assoc, fuel, decodeGroups_append _ _ clear, groupsValue_leadingGroups small]
  simp only [List.singleton_append, decodeGroups, last, value]
  rw [if_neg (by omega), if_pos h]

/-- A prefix that is cut off anywhere is seen to be incomplete. -/
theorem decodeSize_of_isCutOf {n : Nat} {part : List UInt8} (h : IsCutOf part (encodeSize n)) :
    decodeSize part = .error .incomplete := by
  have leading : part <+: leadingGroups (greatestPrefixLength - 1) (n / 128) := by
    rcases h.of_append with inLeading | ⟨part', rfl, inLast⟩
    · exact inLeading.isPrefix
    · obtain rfl := inLast.eq_nil
      simp
  refine decodeGroups_eq_incomplete_iff.mpr fun b hb => ?_
  exact toNat_lt_of_mem_leadingGroups (leading.subset (List.take_subset _ _ hb))

end TextAnalysis.Blob
