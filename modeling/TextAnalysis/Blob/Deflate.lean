import TextAnalysis.Blob.Checksum

/-!
# Deflation

Writes a zlib stream in which the content stands as it is, in blocks of the greatest length.
-/

namespace TextAnalysis.Blob

/-- The greatest length of a block whose content stands as it is. -/
def greatestBlockLength : Nat := 65535

/-- The two bytes with which a stream begins. -/
def zlibHeader : List UInt8 := [0x78, 0x9C]

/-- A block with the given content: whether it is the last one, the length, the length with all bits
inverted, and the content. -/
def storedBlock (isLast : Bool) (content : List UInt8) : List UInt8 :=
  let n := content.length
  (if isLast then 1 else 0) :: UInt8.ofNat (n % 256) :: UInt8.ofNat (n / 256) ::
    UInt8.ofNat (255 - n % 256) :: UInt8.ofNat (255 - n / 256) :: content

/-- The blocks of some content, at most `fuel` before the last one. -/
def storedBlocks : Nat → List UInt8 → List UInt8
  | 0, content => storedBlock true content
  | fuel + 1, content =>
    if content.length ≤ greatestBlockLength then storedBlock true content
    else
      storedBlock false (content.take greatestBlockLength) ++
        storedBlocks fuel (content.drop greatestBlockLength)

/-- The zlib stream of some content. -/
def deflate (content : List UInt8) : List UInt8 :=
  zlibHeader ++ storedBlocks (content.length / greatestBlockLength) content ++
    (Checksum.ofBytes content).toBytes

end TextAnalysis.Blob
