import TextAnalysis.Blob.Deflate
import TextAnalysis.Proofs.Blob.Bits

/-!
# Laws of deflation

What is written for a content is a zlib stream of it.
-/

namespace TextAnalysis.Blob

/-- A block whose content stands as it is takes up whole bytes, so that the next one begins a byte too. -/
theorem blockBits_storedBlock (isLast : Bool) {position : Nat} (start : position % 8 = 0)
    (before : List UInt8) {content : List UInt8} (small : content.length ≤ greatestBlockLength) :
    BlockBits isLast position before (bitsOf (storedBlock isLast content)) (before ++ content) := by
  have bits : bitsOf (storedBlock isLast content) = isLast :: false :: false ::
      (List.replicate 5 false ++ bitsOf (lengthBytes content.length ++ content)) := by
    cases isLast <;> rfl
  rw [bits]
  exact .stored (by simp) (by simp; omega) (Nat.lt_succ_of_le small)

/-- Blocks of the greatest length, as many as are needed, hold the content. -/
theorem blocksBits_storedBlocks {fuel position : Nat} (start : position % 8 = 0) (before : List UInt8)
    {content : List UInt8} (enough : content.length ≤ greatestBlockLength * (fuel + 1)) :
    BlocksBits position before (bitsOf (storedBlocks fuel content)) (before ++ content) := by
  induction fuel generalizing position before content with
  | zero => exact .last (blockBits_storedBlock true start before (by omega))
  | succ fuel ih =>
    rw [storedBlocks]
    split
    · next small => exact .last (blockBits_storedBlock true start before small)
    · next large =>
      have first := blockBits_storedBlock false start before
        (List.length_take_le greatestBlockLength content)
      have next (bytes : List UInt8) : (position + (bitsOf bytes).length) % 8 = 0 := by
        rw [length_bitsOf]
        omega
      have fewer : (content.drop greatestBlockLength).length ≤ greatestBlockLength * (fuel + 1) := by
        rw [List.length_drop, Nat.sub_le_iff_le_add]
        exact enough
      have rest := ih (next (storedBlock false (content.take greatestBlockLength)))
        (before ++ content.take greatestBlockLength) fewer
      rw [List.append_assoc, List.take_append_drop] at rest
      rw [bitsOf_append]
      exact .more first rest

/-- What is written for a content is a stream of it. -/
theorem isStreamOf_deflate (content : List UInt8) : IsStreamOf content (deflate content) := by
  have enough : content.length ≤
      greatestBlockLength * (content.length / greatestBlockLength + 1) :=
    Nat.le_of_lt (Nat.lt_mul_div_succ content.length (by decide))
  have blocks := blocksBits_storedBlocks (Nat.zero_mod 8) [] enough
  exact .stream (by decide) (by decide) blocks (by decide) (List.append_nil _).symm

end TextAnalysis.Blob
