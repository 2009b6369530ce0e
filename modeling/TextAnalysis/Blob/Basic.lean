import TextAnalysis.Blob.Deflate
import TextAnalysis.Blob.Inflate
import TextAnalysis.Blob.SizePrefix
import TextAnalysis.Text.Numeral

/-!
# Blobs

A blob holds a document in compressed form: a marker byte, the size of the document and a zlib stream.
The marker never occurs in UTF-8, so text and blobs can be kept side by side. What is not a blob, and a
blob whose stream is not whole, is taken as it is.
-/

namespace TextAnalysis.Blob

/-- The first byte of every blob. -/
def marker : UInt8 := 0xF8

/-- Write a blob, with the stream that an encoder makes of the content. -/
def compressWith (encoder : List UInt8 → List UInt8) (content : List UInt8) :
    Except Error (List UInt8) :=
  if content.length < sizeLimit then
    .ok (marker :: encodeSize content.length ++ encoder content)
  else
    .error (.compression ("input of " ++ Text.decimal content.length ++ " bytes is too large"))

/-- Write a blob whose stream holds the content as it stands. -/
def compress (content : List UInt8) : Except Error (List UInt8) := compressWith deflate content

/-- Whether bytes begin with the header of a zlib stream. -/
def beginsStream : List UInt8 → Bool
  | cmf :: flg :: _ => isHeader cmf flg
  | _ => false

/-- The size and the stream of a blob. -/
def parse? (bytes : List UInt8) : Option (Nat × List UInt8) :=
  match bytes with
  | [] => none
  | b :: rest =>
    if b = marker then
      match decodeSize rest with
      | .ok (size, stream) => if beginsStream stream then some (size, stream) else none
      | .error _ => none
    else none

/-- Whether bytes are a blob. -/
def isBlob (bytes : List UInt8) : Bool := (parse? bytes).isSome

/-- The error of a stream whose content is longer than its blob says. -/
def sizeError (size : Nat) : Error :=
  .compression ("stream inflates past its declared size of " ++ Text.decimal size ++ " bytes")

/-- Restore the document of a blob. No more than the size of the document is restored. -/
def uncompress (bytes : List UInt8) : Except Error (List UInt8) :=
  match parse? bytes with
  | none => .ok bytes
  | some (size, stream) =>
    let result := inflate (some size) stream
    match result.ending with
    | .complete => .ok result.content.toList
    | .failed => .ok bytes
    | .beyondLimit => .error (sizeError size)

end TextAnalysis.Blob
