import Mathlib.Algebra.Group.Nat.Defs
import TextAnalysis.Blob.Inflate

/-!
# The format of zlib streams

What a zlib stream of some content is, said without reading one: the bits of each part are given beside
the content that they stand for. A stream has a header, blocks and a checksum. A block holds its content as
it is, or as symbols of prefix codes, which are the standard ones or come with the block; a symbol stands
for a byte or for a copy of earlier content.
-/

namespace TextAnalysis.Blob

/-! ### Bits -/

/-- The bits of some bytes. -/
def bitsOf (bytes : List UInt8) : List Bool := bytes.flatMap bitsOfByte

/-- The lowest bits of a number, the least significant first. -/
def numberBits : Nat → Nat → List Bool
  | 0, _ => []
  | width + 1, n => n.testBit 0 :: numberBits width (n / 2)

/-! ### Prefix codes -/

namespace PrefixCode

/-- The number of the first code of `n` bits. It follows all codes that have fewer bits. -/
def firstCode (lengths : List Nat) : Nat → Nat
  | 0 => 0
  | n + 1 => 2 * (firstCode lengths n + if n = 0 then 0 else lengths.count n)

/-- The number of a symbol's code of `n` bits. Codes of one length are numbered in the order of their
symbols. -/
def codeNumber (lengths : List Nat) (symbol n : Nat) : Nat :=
  firstCode lengths n + (lengths.take symbol).count n

/-- The bits are the code of a symbol, with the most significant bit first, where `lengths` are the lengths
of all codes. -/
def IsCode (lengths : List Nat) (symbol : Nat) (bits : List Bool) : Prop :=
  ∃ n, lengths[symbol]? = some n ∧ n ≠ 0 ∧ n ≤ greatestCodeLength ∧
    bits = (numberBits n (codeNumber lengths symbol n)).reverse

end PrefixCode

open PrefixCode

/-- The lengths of the standard codes for bytes and lengths. -/
def standardLiterals : List Nat :=
  List.replicate 144 8 ++ List.replicate 112 9 ++ List.replicate 24 7 ++ List.replicate 8 8

/-- The lengths of the standard codes for distances. -/
def standardDistances : List Nat := List.replicate 32 5

/-! ### Codes that come with a block -/

/-- The lengths of the codes for code lengths, from the numbers of three bits in which they are written. -/
def metaLengths (triples : List Nat) : List Nat :=
  (List.range 19).map fun i => ((lengthOrder.zip triples).lookup i).getD 0

/-- The bits stand for the code lengths that come after `read`; all lengths are `all`. A length is written
as it is, as a repetition of the one before it, or with others as a number of zeros. -/
inductive LengthBits (codes : List Nat) : List Nat → List Bool → List Nat → Prop
  | done (all : List Nat) : LengthBits codes all [] all
  | length {read all : List Nat} {n : Nat} {code bits : List Bool} (small : n < 16)
      (isCode : IsCode codes n code) (more : LengthBits codes (read ++ [n]) bits all) :
      LengthBits codes read (code ++ bits) all
  | again {read all : List Nat} {n k : Nat} {code bits : List Bool} (before : read.getLast? = some n)
      (small : k < 4) (isCode : IsCode codes 16 code)
      (more : LengthBits codes (read ++ List.replicate (3 + k) n) bits all) :
      LengthBits codes read (code ++ (numberBits 2 k ++ bits)) all
  | zeros {read all : List Nat} {k : Nat} {code bits : List Bool} (small : k < 8)
      (isCode : IsCode codes 17 code)
      (more : LengthBits codes (read ++ List.replicate (3 + k) 0) bits all) :
      LengthBits codes read (code ++ (numberBits 3 k ++ bits)) all
  | manyZeros {read all : List Nat} {k : Nat} {code bits : List Bool} (small : k < 128)
      (isCode : IsCode codes 18 code)
      (more : LengthBits codes (read ++ List.replicate (11 + k) 0) bits all) :
      LengthBits codes read (code ++ (numberBits 7 k ++ bits)) all

/-- The bits bring the codes of a block, of which the lengths are given. -/
inductive CodesBits (literals distances : List Nat) : List Bool → Prop
  | codes {triples : List Nat} {bits : List Bool} (literals_ge : 257 ≤ literals.length)
      (literals_le : literals.length ≤ 286) (distances_ge : 1 ≤ distances.length)
      (distances_le : distances.length ≤ 30) (triples_ge : 4 ≤ triples.length)
      (triples_le : triples.length ≤ 19) (triples_lt : ∀ n ∈ triples, n < 8)
      (complete : isComplete (metaLengths triples) = true)
      (lengths : LengthBits (metaLengths triples) [] bits (literals ++ distances))
      (ends : literals.getD endOfBlock 0 ≠ 0) (literals_usable : isUsable literals = true)
      (distances_usable : isUsable distances = true) :
      CodesBits literals distances
        (numberBits 5 (literals.length - 257) ++ (numberBits 5 (distances.length - 1) ++
          (numberBits 4 (triples.length - 4) ++ (triples.flatMap (numberBits 3) ++ bits))))

/-! ### Blocks -/

/-- The content with `length` bytes more, each the same as the one `distance` bytes before it. -/
def copied (distance : Nat) : Nat → List UInt8 → List UInt8
  | 0, content => content
  | length + 1, content =>
    copied distance length (content ++ [content.getD (content.length - distance) 0])

/-- The bits are symbols up to the end of a block, which add to the content `before` and make it
`after`. -/
inductive SymbolBits (literals distances : List Nat) : List UInt8 → List Bool → List UInt8 → Prop
  | done (content : List UInt8) {code : List Bool} (isCode : IsCode literals endOfBlock code) :
      SymbolBits literals distances content code content
  | byte {before after : List UInt8} {b : UInt8} {code bits : List Bool}
      (isCode : IsCode literals b.toNat code)
      (more : SymbolBits literals distances (before ++ [b]) bits after) :
      SymbolBits literals distances before (code ++ bits) after
  | copy {before after : List UInt8} {i j least extra n leastDistance extraDistance m : Nat}
      {code distanceCode bits : List Bool}
      (isCode : IsCode literals (endOfBlock + 1 + i) code)
      (length_eq : lengthSymbols[i]? = some (least, extra)) (n_lt : n < 2 ^ extra)
      (isDistanceCode : IsCode distances j distanceCode)
      (distance_eq : distanceSymbols[j]? = some (leastDistance, extraDistance))
      (m_lt : m < 2 ^ extraDistance) (reaches : leastDistance + m ≤ before.length)
      (more : SymbolBits literals distances (copied (leastDistance + m) (least + n) before) bits after) :
      SymbolBits literals distances before
        (code ++ (numberBits extra n ++ (distanceCode ++ (numberBits extraDistance m ++ bits)))) after

/-- The bytes that tell the length of a block whose content stands as it is: the length, and the length
with all bits inverted. -/
def lengthBytes (n : Nat) : List UInt8 :=
  [UInt8.ofNat (n % 256), UInt8.ofNat (n / 256), UInt8.ofNat (255 - n % 256),
    UInt8.ofNat (255 - n / 256)]

/-- The bits are a block that begins `position` bits after the header of its stream. It adds to the content
`before` and makes it `after`. -/
inductive BlockBits (isLast : Bool) (position : Nat) (before : List UInt8) :
    List Bool → List UInt8 → Prop
  | stored {padding : List Bool} {content : List UInt8} (short : padding.length < 8)
      (aligned : (position + 3 + padding.length) % 8 = 0) (small : content.length < 65536) :
      BlockBits isLast position before
        (isLast :: false :: false :: (padding ++ bitsOf (lengthBytes content.length ++ content)))
        (before ++ content)
  | standard {bits : List Bool} {after : List UInt8}
      (symbols : SymbolBits standardLiterals standardDistances before bits after) :
      BlockBits isLast position before (isLast :: true :: false :: bits) after
  | coded {literals distances : List Nat} {codes bits : List Bool} {after : List UInt8}
      (brings : CodesBits literals distances codes)
      (symbols : SymbolBits literals distances before bits after) :
      BlockBits isLast position before (isLast :: false :: true :: (codes ++ bits)) after

/-- The bits are the blocks up to the last one. -/
inductive BlocksBits : Nat → List UInt8 → List Bool → List UInt8 → Prop
  | last {position : Nat} {before after : List UInt8} {bits : List Bool}
      (block : BlockBits true position before bits after) : BlocksBits position before bits after
  | more {position : Nat} {before middle after : List UInt8} {bits rest : List Bool}
      (block : BlockBits false position before bits middle)
      (blocks : BlocksBits (position + bits.length) middle rest after) :
      BlocksBits position before (bits ++ rest) after

/-! ### Streams -/

/-- The bytes are one zlib stream of some content, and nothing after it: a header that asks for no
dictionary, blocks, bits that fill up the last byte of these, and the checksum of the content. -/
inductive IsStreamOf (content : List UInt8) : List UInt8 → Prop
  | stream {flg : UInt8} {body : List UInt8} {bits padding : List Bool}
      (header : isHeader 0x78 flg = true) (plain : needsDictionary flg = false)
      (blocks : BlocksBits 0 [] bits content) (short : padding.length < 8)
      (body_eq : bitsOf body = bits ++ padding) :
      IsStreamOf content (0x78 :: flg :: (body ++ (Checksum.ofBytes content).toBytes))

/-! ### A stream with the standard codes -/

/-- The bytes of the word `hello`. -/
def greeting : List UInt8 := [0x68, 0x65, 0x6C, 0x6C, 0x6F]

/-- The zlib stream of the greeting that uses the standard codes. -/
def greetingStream : List UInt8 :=
  [0x78, 0x9C, 0xCB, 0x48, 0xCD, 0xC9, 0xC9, 0x07, 0x00, 0x06, 0x2C, 0x02, 0x15]

private theorem isCode_standardLiterals_of_lt {symbol : Nat} (h : symbol < 144) :
    IsCode standardLiterals symbol (numberBits 8 (48 + symbol)).reverse := by
  have parts : standardLiterals = List.replicate 144 8 ++
      (List.replicate 112 9 ++ List.replicate 24 7 ++ List.replicate 8 8) := by
    simp only [standardLiterals, List.append_assoc]
  have has : standardLiterals[symbol]? = some 8 := by
    rw [parts, List.getElem?_append_left (by simpa using h), List.getElem?_replicate_of_lt h]
  have before : standardLiterals.take symbol = List.replicate symbol 8 := by
    rw [parts, List.take_append_of_le_length (by simp; omega), List.take_replicate,
      Nat.min_eq_left (Nat.le_of_lt h)]
  have first : firstCode standardLiterals 8 = 48 := by decide +kernel
  refine ⟨8, has, by decide, by decide, ?_⟩
  rw [codeNumber, first, before, List.count_replicate_self]

private theorem isCode_standardLiterals_endOfBlock :
    IsCode standardLiterals endOfBlock (numberBits 7 0).reverse :=
  ⟨7, by decide +kernel, by decide, by decide, by decide +kernel⟩

/-- The stream of the greeting is one. -/
theorem isStreamOf_greetingStream : IsStreamOf greeting greetingStream := by
  have symbols : SymbolBits standardLiterals standardDistances [] _ greeting :=
    .byte (b := 0x68) (isCode_standardLiterals_of_lt (by decide)) <|
    .byte (b := 0x65) (isCode_standardLiterals_of_lt (by decide)) <|
    .byte (b := 0x6C) (isCode_standardLiterals_of_lt (by decide)) <|
    .byte (b := 0x6C) (isCode_standardLiterals_of_lt (by decide)) <|
    .byte (b := 0x6F) (isCode_standardLiterals_of_lt (by decide)) <|
    .done _ isCode_standardLiterals_endOfBlock
  have parts : greetingStream = 0x78 :: 0x9C ::
      ([0xCB, 0x48, 0xCD, 0xC9, 0xC9, 0x07, 0x00] ++ (Checksum.ofBytes greeting).toBytes) := by decide
  rw [parts]
  refine .stream (by decide) (by decide) (.last (.standard symbols))
    (show (List.replicate 6 false).length < 8 by decide) ?_
  decide

end TextAnalysis.Blob
