import TextAnalysis.Blob.Basic
import TextAnalysis.Proofs.Blob.Deflate
import TextAnalysis.Proofs.Blob.Inflate
import TextAnalysis.Proofs.Blob.SizePrefix

/-!
# Laws of blobs

A blob is restored whatever encoder made its stream, so long as this is a zlib stream of the content, and
whatever follows the blob. A blob that is cut off anywhere is taken as it is.
-/

namespace TextAnalysis.Blob

variable {encoder : List UInt8 → List UInt8} {content : List UInt8}

/-- A content whose size can be written is made a blob. -/
theorem compressWith_eq_ok (small : content.length < sizeLimit) :
    compressWith encoder content =
      .ok (marker :: (encodeSize content.length ++ encoder content)) := by
  rw [compressWith, if_pos small]
  rfl

/-- Just the contents whose size can be written are made blobs. -/
theorem compressWith_eq_ok_iff {blob : List UInt8} :
    compressWith encoder content = .ok blob ↔
      content.length < sizeLimit ∧ blob = marker :: (encodeSize content.length ++ encoder content) := by
  by_cases small : content.length < sizeLimit
  · rw [compressWith_eq_ok small]
    simp [small, eq_comm]
  · rw [compressWith, if_neg small]
    simp [small]

/-- A content is refused just if its size cannot be written. -/
theorem compressWith_eq_error_iff {e : Error} :
    compressWith encoder content = .error e ↔
      sizeLimit ≤ content.length ∧
        e = .compression ("input of " ++ Text.decimal content.length ++ " bytes is too large") := by
  by_cases small : content.length < sizeLimit
  · rw [compressWith_eq_ok small]
    simp [Nat.not_le.mpr small]
  · rw [compressWith, if_neg small]
    simp [Nat.not_lt.mp small, eq_comm]

/-- After the marker and the size, a blob goes on if a stream begins there. -/
theorem parse?_marker_cons {n : Nat} (small : n < sizeLimit) (stream : List UInt8) :
    parse? (marker :: (encodeSize n ++ stream)) =
      if beginsStream stream then some (n, stream) else none := by
  rw [parse?, if_pos rfl, decodeSize_encodeSize_append small]

/-- A stream begins as streams do, whatever follows it. -/
theorem IsStreamOf.beginsStream_append {stream : List UInt8} (h : IsStreamOf content stream)
    (rest : List UInt8) : beginsStream (stream ++ rest) = true := by
  cases h with
  | stream header => exact header

/-- What is not a blob is taken as it is. -/
theorem uncompress_of_parse?_eq_none {bytes : List UInt8} (h : parse? bytes = none) :
    uncompress bytes = .ok bytes := by
  rw [uncompress, h]

/-- A blob whose stream fails is taken as it is. -/
theorem uncompress_of_failed {bytes stream : List UInt8} {size : Nat}
    (parsed : parse? bytes = some (size, stream))
    (failed : (inflate (some size) stream).ending = .failed) : uncompress bytes = .ok bytes := by
  rw [uncompress, parsed]
  dsimp only
  rw [failed]

/-- A content fits in its own size. -/
private theorem fits_length : Fits (some content.length) content := by
  rintro n ⟨rfl⟩
  exact Nat.le_refl _

/-- A stream behind the marker and the size of its content is a blob of that content, whatever follows. -/
theorem restores_append (small : content.length < sizeLimit) {stream : List UInt8}
    (isStream : IsStreamOf content stream) (trailing : List UInt8) :
    isBlob (marker :: (encodeSize content.length ++ stream) ++ trailing) = true ∧
      uncompress (marker :: (encodeSize content.length ++ stream) ++ trailing) = .ok content := by
  have parsed : parse? (marker :: (encodeSize content.length ++ stream) ++ trailing) =
      some (content.length, stream ++ trailing) := by
    rw [List.cons_append, List.append_assoc, parse?_marker_cons small,
      if_pos (isStream.beginsStream_append trailing)]
  have restored := inflate_append isStream fits_length trailing
  constructor
  · rw [isBlob, parsed]
    rfl
  · rw [uncompress, parsed]
    simp only [restored]

/-- A blob is restored, whatever follows it. -/
theorem uncompress_compressWith_append (small : content.length < sizeLimit)
    (isStream : IsStreamOf content (encoder content)) (trailing : List UInt8) :
    ∃ blob, compressWith encoder content = .ok blob ∧ isBlob (blob ++ trailing) = true ∧
      uncompress (blob ++ trailing) = .ok content :=
  ⟨_, compressWith_eq_ok small, restores_append small isStream trailing⟩

/-- An encoder that uses the standard codes for the greeting. -/
def greetingEncoder (content : List UInt8) : List UInt8 :=
  if content = greeting then greetingStream else deflate content

/-- The greeting is restored from the stream with the standard codes, before a line feed. -/
theorem uncompress_greeting_append :
    greeting.length < sizeLimit ∧ IsStreamOf greeting (greetingEncoder greeting) ∧
      ∃ blob, compressWith greetingEncoder greeting = .ok blob ∧ isBlob (blob ++ [0x0A]) = true ∧
        uncompress (blob ++ [0x0A]) = .ok greeting :=
  ⟨by decide, isStreamOf_greetingStream,
    uncompress_compressWith_append (by decide) isStreamOf_greetingStream [0x0A]⟩

/-- What is written as it stands is restored. -/
theorem uncompress_compress (small : content.length < sizeLimit) :
    (compress content).bind uncompress = .ok content := by
  have restored := (restores_append small (isStreamOf_deflate content) []).2
  rw [List.append_nil] at restored
  rw [compress, compressWith_eq_ok small]
  exact restored

/-! ### Blobs that are cut off -/

/-- A part of a blob that is not the whole of it is taken as it is. The cut may be before the marker, in the
size or in the stream. -/
theorem uncompress_of_isCutOf (small : content.length < sizeLimit) {stream part : List UInt8}
    (isStream : IsStreamOf content stream)
    (isCut : IsCutOf part ([marker] ++ (encodeSize content.length ++ stream))) :
    uncompress part = .ok part := by
  rcases isCut.of_append with inMarker | ⟨part', rfl, inBlob⟩
  · rw [inMarker.eq_nil]
    rfl
  · rcases inBlob.of_append with inSize | ⟨part'', rfl, inStream⟩
    · refine uncompress_of_parse?_eq_none ?_
      rw [List.singleton_append, parse?, if_pos rfl, decodeSize_of_isCutOf inSize]
    · have parsed := parse?_marker_cons small part''
      by_cases begins : beginsStream part'' = true
      · rw [if_pos begins] at parsed
        exact uncompress_of_failed parsed (inflate_of_isCutOf isStream fits_length inStream)
      · rw [if_neg begins] at parsed
        exact uncompress_of_parse?_eq_none parsed

/-- A blob that is cut off anywhere is taken as it is. -/
theorem uncompress_of_isPrefix (small : content.length < sizeLimit)
    (isStream : IsStreamOf content (encoder content)) :
    ∃ blob, compressWith encoder content = .ok blob ∧
      ∀ part, part <+: blob → part ≠ blob → uncompress part = .ok part :=
  ⟨_, compressWith_eq_ok small, fun _ isPrefix ne =>
    uncompress_of_isCutOf small isStream (.of_isPrefix isPrefix ne)⟩

/-- Every part of the blob of the greeting is taken as it is. -/
theorem uncompress_greeting_of_isPrefix :
    greeting.length < sizeLimit ∧ IsStreamOf greeting (greetingEncoder greeting) ∧
      ∃ blob, compressWith greetingEncoder greeting = .ok blob ∧
        ∀ part, part <+: blob → part ≠ blob → uncompress part = .ok part :=
  ⟨by decide, isStreamOf_greetingStream, uncompress_of_isPrefix (by decide) isStreamOf_greetingStream⟩

end TextAnalysis.Blob
