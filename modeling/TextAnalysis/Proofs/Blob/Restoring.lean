import TextAnalysis.Proofs.Blob.Limit
import TextAnalysis.Proofs.Blob.RoundTrip
import TextAnalysis.Proofs.Blob.Whole

/-!
# What is restored from any bytes

Bytes are a blob if the marker, a size prefix and the header of a stream stand in front. What is restored from
a blob is decided by its stream, as it is read without a limit: by how much it holds, and by how it ends.
-/

namespace TextAnalysis.Blob

/-- The bytes are the marker, a prefix of `size` and `stream`, and `stream` begins with the header of a zlib
stream with the usual window. What follows the header may be anything. -/
inductive IsBlobOf (size : Nat) (stream : List UInt8) : List UInt8 → Prop
  | blob {front rest : List UInt8} {flg : UInt8} (isPrefix : IsSizePrefix size front)
      (begins : stream = 0x78 :: flg :: rest) (header : (0x7800 + flg.toNat) % 31 = 0) :
      IsBlobOf size stream (marker :: (front ++ stream))

theorem beginsStream_iff {stream : List UInt8} :
    beginsStream stream = true ↔
      ∃ flg rest, stream = 0x78 :: flg :: rest ∧ (0x7800 + flg.toNat) % 31 = 0 := by
  constructor
  · intro begins
    match stream with
    | cmf :: flg :: rest =>
      obtain ⟨hcmf, header⟩ := Bool.and_eq_true_iff.mp begins
      obtain rfl := of_decide_eq_true hcmf
      exact ⟨flg, rest, rfl, of_decide_eq_true header⟩
  · rintro ⟨flg, rest, rfl, header⟩
    exact Bool.and_eq_true_iff.mpr ⟨rfl, decide_eq_true header⟩

/-- A blob is told by its layout. -/
theorem parse?_eq_some_iff {bytes stream : List UInt8} {size : Nat} :
    parse? bytes = some (size, stream) ↔ IsBlobOf size stream bytes := by
  constructor
  · intro parsed
    match bytes with
    | b :: rest =>
      rw [parse?] at parsed
      split at parsed
      · next isMarker =>
        split at parsed
        · next size' stream' decoded =>
          obtain ⟨begins, eq⟩ := Option.ite_none_right_eq_some.mp parsed
          obtain ⟨rfl, rfl⟩ := Prod.mk.inj (Option.some.inj eq)
          obtain ⟨front, rfl, isPrefix⟩ := decodeSize_eq_ok_iff.mp decoded
          obtain ⟨flg, rest, stream_eq, header⟩ := beginsStream_iff.mp begins
          rw [isMarker]
          exact .blob isPrefix stream_eq header
        · cases parsed
      · cases parsed
  · rintro ⟨isPrefix, begins, header⟩
    rw [parse?, if_pos rfl, decodeSize_eq_ok_iff.mpr ⟨_, rfl, isPrefix⟩]
    dsimp only
    rw [if_pos (beginsStream_iff.mpr ⟨_, _, begins, header⟩)]

namespace IsBlobOf

variable {bytes stream : List UInt8} {size : Nat} (isBlob : IsBlobOf size stream bytes)

include isBlob

/-- What is restored from a blob, told by its stream as it is read without a limit. -/
theorem uncompress_eq :
    uncompress bytes =
      if size < (inflate none stream).content.size then .error (sizeError size)
      else if (inflate none stream).ending = .complete then .ok (inflate none stream).content.toList
      else .ok bytes := by
  obtain ⟨ends, fits, exceeds⟩ := inflate_some size stream
  rw [uncompress, parse?_eq_some_iff.mpr isBlob]
  dsimp only
  by_cases much : size < (inflate none stream).content.size
  · rw [if_pos much, exceeds much]
  · rw [if_neg much, fits (Nat.not_lt.mp much)]
    rcases ends with complete | failed
    · rw [if_pos complete, complete]
    · rw [if_neg (by rw [failed]; decide), failed]

/-- A blob is an error just if its stream holds more than the blob says, however the stream ends. -/
theorem uncompress_eq_error_iff {e : Error} :
    uncompress bytes = .error e ↔
      size < (inflate none stream).content.toList.length ∧ e = sizeError size := by
  rw [isBlob.uncompress_eq, Array.length_toList]
  split
  · next much =>
    constructor
    · intro h
      exact ⟨much, (Except.error.inj h).symm⟩
    · rintro ⟨-, rfl⟩
      rfl
  · next few =>
    constructor
    · intro h
      split at h <;> cases h
    · rintro ⟨much, -⟩
      exact absurd much few

/-- Of other blobs the content is restored if the stream is complete, and the blob is taken as it is if the
stream fails. -/
theorem uncompress_eq_ok_iff {content : List UInt8} :
    uncompress bytes = .ok content ↔
      (inflate none stream).content.toList.length ≤ size ∧
        ((inflate none stream).ending = .complete ∧ content = (inflate none stream).content.toList ∨
          (inflate none stream).ending = .failed ∧ content = bytes) := by
  have ends := (inflate_some size stream).1
  rw [isBlob.uncompress_eq, Array.length_toList]
  split
  · next much =>
    constructor
    · intro h
      cases h
    · rintro ⟨few, -⟩
      exact absurd much (Nat.not_lt.mpr few)
  · next few =>
    have fits := Nat.not_lt.mp few
    split
    · next complete =>
      constructor
      · intro h
        exact ⟨fits, .inl ⟨complete, (Except.ok.inj h).symm⟩⟩
      · rintro ⟨-, ⟨-, rfl⟩ | ⟨failed, -⟩⟩
        · rfl
        · rw [complete] at failed
          cases failed
    · next notComplete =>
      constructor
      · intro h
        exact ⟨fits, .inr ⟨ends.resolve_left notComplete, (Except.ok.inj h).symm⟩⟩
      · rintro ⟨-, ⟨complete, -⟩ | ⟨-, rfl⟩⟩
        · exact absurd complete notComplete
        · rfl

end IsBlobOf

/-- Bytes are an error just if they are a blob whose stream holds more than the blob says. -/
theorem uncompress_eq_error_iff {bytes : List UInt8} {e : Error} :
    uncompress bytes = .error e ↔
      ∃ size stream, IsBlobOf size stream bytes ∧
        size < (inflate none stream).content.toList.length ∧ e = sizeError size := by
  constructor
  · intro failed
    cases parsed : parse? bytes with
    | none =>
      rw [uncompress_of_parse?_eq_none parsed] at failed
      cases failed
    | some found =>
      have isBlob := parse?_eq_some_iff.mp parsed
      exact ⟨found.1, found.2, isBlob, isBlob.uncompress_eq_error_iff.mp failed⟩
  · rintro ⟨size, stream, isBlob, exceeds⟩
    exact isBlob.uncompress_eq_error_iff.mpr exceeds

private theorem isBlobOf_cons {last : UInt8} {size : Nat} {stream : List UInt8} (set : 128 ≤ last.toNat)
    (value : last.toNat % 128 = size) (begins : beginsStream stream = true) :
    IsBlobOf size stream (marker :: last :: stream) := by
  obtain ⟨flg, rest, rfl, header⟩ := beginsStream_iff.mp begins
  have small : size < sizeLimit := by
    rw [← value]
    exact Nat.lt_trans (Nat.mod_lt _ (by decide)) (by decide)
  have isPrefix : IsSizePrefix size ([] ++ [last]) :=
    .groups (by decide) (by simp) set (by simpa [groupsValue] using value) small
  exact .blob isPrefix rfl header

end TextAnalysis.Blob
