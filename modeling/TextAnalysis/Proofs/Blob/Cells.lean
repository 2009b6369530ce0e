import Mathlib.Data.List.Forall2
import Mathlib.Logic.Function.Iterate
import TextAnalysis.Proofs.Blob.RoundTrip
import TextAnalysis.Proofs.Text.Utf8

/-!
# Text beside blobs

The marker does not occur in UTF-8. So cells may hold texts as they are or as blobs, one beside another, and
to restore a text it need not be known which, nor how often it has been restored already.
-/

namespace TextAnalysis.Blob

/-- No text is a blob. -/
theorem parse?_toBytes (text : String) : parse? (Text.toBytes text) = none := by
  cases bytes : Text.toBytes text with
  | nil => rfl
  | cons b rest =>
    have small : b.toNat < 0xF8 := Text.toNat_lt_of_mem_toBytes (s := text) (by simp [bytes])
    have noMarker : b ≠ marker := by
      rintro rfl
      exact absurd small (by decide)
    rw [parse?, if_neg noMarker]

/-- The bytes of a cell that holds a text, as it is or as a blob. -/
inductive IsCellOf (encoder : List UInt8 → List UInt8) (text : String) : List UInt8 → Prop
  | plain : IsCellOf encoder text (Text.toBytes text)
  | compressed {blob : List UInt8} (written : compressWith encoder (Text.toBytes text) = .ok blob) :
      IsCellOf encoder text blob

/-! ### Restoring texts -/

section

variable {encoder : List UInt8 → List UInt8} (isStream : ∀ content, IsStreamOf content (encoder content))

include isStream

/-- What is written as a blob is a blob, and is restored. -/
theorem restores_of_compressWith {content blob : List UInt8}
    (written : compressWith encoder content = .ok blob) :
    isBlob blob = true ∧ uncompress blob = .ok content := by
  obtain ⟨small, rfl⟩ := compressWith_eq_ok_iff.mp written
  have restored := restores_append small (isStream content) []
  rwa [List.append_nil] at restored

/-- The bytes of a text are restored from its cell. -/
theorem IsCellOf.uncompress_eq {text : String} {cell : List UInt8} (holds : IsCellOf encoder text cell) :
    uncompress cell = .ok (Text.toBytes text) := by
  cases holds with
  | plain => exact uncompress_of_parse?_eq_none (parse?_toBytes text)
  | compressed written => exact (restores_of_compressWith isStream written).2

/-- The bytes of the texts are restored from their cells. -/
theorem mapM_uncompress {texts : List String} {cells : List (List UInt8)}
    (hold : List.Forall₂ (IsCellOf encoder) texts cells) :
    cells.mapM uncompress = .ok (texts.map Text.toBytes) := by
  induction hold with
  | nil => rfl
  | cons holds _ ih =>
    rw [List.mapM_cons, holds.uncompress_eq isStream, ih]
    rfl

end

/-- Restoring may be repeated where what has been restored is taken as it is. -/
theorem iterate_uncompress {bytes content : List UInt8} (restored : uncompress bytes = .ok content)
    (stays : uncompress content = .ok content) (k : Nat) :
    (fun result => Except.bind result uncompress)^[k + 1] (.ok bytes) = .ok content := by
  rw [Function.iterate_succ_apply]
  exact (congrArg _ restored).trans (Function.iterate_fixed stays k)

/-- A text is never taken for a blob, and a blob always is, if its stream is a zlib stream of the text. There
is a blob of each text whose size can be written, and the text is restored from it, however often this is
repeated. Cells that hold texts, some as they are and some as blobs, all give their texts back. -/
theorem texts_restored {encoder : List UInt8 → List UInt8}
    (isStream : ∀ content, IsStreamOf content (encoder content)) :
    (∀ text : String,
      isBlob (Text.toBytes text) = false ∧ uncompress (Text.toBytes text) = .ok (Text.toBytes text) ∧
        ((∃ blob, compressWith encoder (Text.toBytes text) = .ok blob) ↔
          (Text.toBytes text).length < sizeLimit) ∧
        ∀ blob, compressWith encoder (Text.toBytes text) = .ok blob →
          isBlob blob = true ∧
            ∀ k, (fun result => Except.bind result uncompress)^[k + 1] (.ok blob) =
              .ok (Text.toBytes text)) ∧
      ∀ texts cells, List.Forall₂ (IsCellOf encoder) texts cells →
        ∃ restored, cells.mapM uncompress = .ok restored ∧
          restored.map Text.ofBytes? = texts.map some := by
  constructor
  · intro text
    have plain := parse?_toBytes text
    have stays := uncompress_of_parse?_eq_none plain
    refine ⟨by rw [isBlob, plain, Option.isSome_none], stays, ?_, fun blob written => ?_⟩
    · simp only [compressWith_eq_ok_iff, exists_and_left, exists_eq, and_true]
    · obtain ⟨isBlob, restored⟩ := restores_of_compressWith isStream written
      exact ⟨isBlob, iterate_uncompress restored stays⟩
  · intro texts cells hold
    refine ⟨_, mapM_uncompress isStream hold, ?_⟩
    rw [List.map_map]
    exact List.map_congr_left fun text _ => Text.ofBytes?_toBytes text

/-- The encoder writes a stream of any content. -/
theorem isStreamOf_greetingEncoder (content : List UInt8) : IsStreamOf content (greetingEncoder content) := by
  rw [greetingEncoder]
  split
  · next isGreeting =>
    rw [isGreeting]
    exact isStreamOf_greetingStream
  · exact isStreamOf_deflate content

/-- The first of two cells holds its text as a blob with the standard codes, the second one as it is. -/
theorem texts_restored_of_two_cells :
    (∀ content, IsStreamOf content (greetingEncoder content)) ∧
      List.Forall₂ (IsCellOf greetingEncoder) ["hello", "øl"]
        [marker :: 0x85 :: greetingStream, Text.toBytes "øl"] ∧
      isBlob (Text.toBytes "øl") = false ∧ isBlob (marker :: 0x85 :: greetingStream) = true ∧
      ∃ restored, [marker :: 0x85 :: greetingStream, Text.toBytes "øl"].mapM uncompress = .ok restored ∧
        restored.map Text.ofBytes? = ["hello", "øl"].map some :=
  have written : compressWith greetingEncoder (Text.toBytes "hello") =
    .ok (marker :: 0x85 :: greetingStream) := by rfl
  have cells : List.Forall₂ (IsCellOf greetingEncoder) ["hello", "øl"]
    [marker :: 0x85 :: greetingStream, Text.toBytes "øl"] := .cons (.compressed written) (.cons .plain .nil)
  ⟨isStreamOf_greetingEncoder, cells, ((texts_restored isStreamOf_greetingEncoder).1 "øl").1,
    (((texts_restored isStreamOf_greetingEncoder).1 "hello").2.2.2 _ written).1,
    (texts_restored isStreamOf_greetingEncoder).2 _ _ cells⟩

end TextAnalysis.Blob
