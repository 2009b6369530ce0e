import TextAnalysis.Blob.Checksum
import TextAnalysis.Blob.PrefixCode

/-!
# Inflation

Restores the content of a zlib stream. The content grows byte by byte, so a limit can be set at which
the work ends, whatever follows in the stream; without a limit the stream is read until it ends or
fails.
-/

namespace TextAnalysis.Blob

/-- How the reading of a stream ended: at its end, at a fault or because it is cut off, or because the
content grew beyond the limit. -/
inductive Ending where
  | complete
  | failed
  | beyondLimit
deriving Repr, DecidableEq

/-- The content that was restored, and how the reading ended. -/
structure Inflated where
  content : Array UInt8
  ending : Ending
deriving Repr, DecidableEq

/-- The state between two steps: what is left of the stream, and the content so far. -/
structure Inflating where
  stream : BitStream
  content : Array UInt8
deriving Repr, DecidableEq

/-- The symbol that ends a block. -/
def endOfBlock : Nat := 256

/-- For each symbol of a match, the least length that it stands for and the number of bits that are
added. -/
def lengthSymbols : List (Nat × Nat) :=
  [(3, 0), (4, 0), (5, 0), (6, 0), (7, 0), (8, 0), (9, 0), (10, 0), (11, 1), (13, 1), (15, 1), (17, 1),
   (19, 2), (23, 2), (27, 2), (31, 2), (35, 3), (43, 3), (51, 3), (59, 3), (67, 4), (83, 4), (99, 4),
   (115, 4), (131, 5), (163, 5), (195, 5), (227, 5), (258, 0)]

/-- For each symbol of a distance, the least distance that it stands for and the number of bits that
are added. -/
def distanceSymbols : List (Nat × Nat) :=
  [(1, 0), (2, 0), (3, 0), (4, 0), (5, 1), (7, 1), (9, 2), (13, 2), (17, 3), (25, 3), (33, 4), (49, 4),
   (65, 5), (97, 5), (129, 6), (193, 6), (257, 7), (385, 7), (513, 8), (769, 8), (1025, 9), (1537, 9),
   (2049, 10), (3073, 10), (4097, 11), (6145, 11), (8193, 12), (12289, 12), (16385, 13), (24577, 13)]

/-- Read what the bits after a symbol add to its least value. -/
def extended? (symbols : List (Nat × Nat)) (symbol : Nat) (s : BitStream) :
    Option (Nat × BitStream) :=
  match symbols[symbol]? with
  | none => none
  | some (least, extra) => (s.number? extra).map fun (n, s) => (least + n, s)

/-- The content with `length` bytes more, each the same as the one `distance` bytes before it. -/
def repeatBytes (distance : Nat) : Nat → Array UInt8 → Array UInt8
  | 0, content => content
  | length + 1, content =>
    repeatBytes distance length (content.push (content.getD (content.size - distance) 0))

/-- The prefix codes of a block, for bytes and lengths and for distances. -/
structure BlockCodes where
  literals : PrefixCode
  distances : PrefixCode
deriving Repr, DecidableEq

/-- The codes of a block that brings none of its own. -/
def standardCodes : BlockCodes where
  literals := .ofLengths
    (List.replicate 144 8 ++ List.replicate 112 9 ++ List.replicate 24 7 ++ List.replicate 8 8)
  distances := .ofLengths (List.replicate 32 5)

/-- The order in which the lengths of the codes for lengths are written. -/
def lengthOrder : List Nat :=
  [16, 17, 18, 0, 8, 7, 9, 6, 10, 5, 11, 4, 12, 3, 13, 2, 14, 1, 15]

/-- Read `n` numbers of three bits. -/
def readTriples : Nat → BitStream → Option (List Nat × BitStream)
  | 0, s => some ([], s)
  | n + 1, s =>
    match s.number? 3 with
    | none => none
    | some (v, s) => (readTriples n s).map fun (vs, s) => (v :: vs, s)

/-- Read the symbol of a code length: how many lengths it stands for, and which. A symbol may repeat the
length before it. -/
def readLengthRun (code : PrefixCode) (last : Option Nat) (s : BitStream) :
    Option (List Nat × BitStream) :=
  match code.decode s with
  | none => none
  | some (symbol, s) =>
    if symbol < 16 then some ([symbol], s)
    else if symbol = 16 then
      match last with
      | none => none
      | some n => (s.number? 2).map fun (k, s) => (List.replicate (3 + k) n, s)
    else if symbol = 17 then (s.number? 3).map fun (k, s) => (List.replicate (3 + k) 0, s)
    else (s.number? 7).map fun (k, s) => (List.replicate (11 + k) 0, s)

/-- Read code lengths until there are exactly `total`; those read so far come last one first. At most
`fuel` symbols are read. -/
def readLengths (code : PrefixCode) (total : Nat) :
    Nat → List Nat → BitStream → Option (List Nat × BitStream)
  | 0, read, s => if read.length = total then some (read.reverse, s) else none
  | fuel + 1, read, s =>
    if read.length = total then some (read.reverse, s)
    else if total < read.length then none
    else
      match readLengthRun code read.head? s with
      | none => none
      | some (run, s) => readLengths code total fuel (run.reverse ++ read) s

/-- Read the codes that a block brings. -/
def readCodes (s : BitStream) : Option (BlockCodes × BitStream) := do
  let (literals, s) ← s.number? 5
  let (distances, s) ← s.number? 5
  let (lengths, s) ← s.number? 4
  let literals := literals + 257
  let distances := distances + 1
  if 286 < literals ∨ 30 < distances then none
  let (triples, s) ← readTriples (lengths + 4) s
  let metaLengths := (List.range 19).map fun i => ((lengthOrder.zip triples).lookup i).getD 0
  if !PrefixCode.isComplete metaLengths then none
  let (all, s) ← readLengths (.ofLengths metaLengths) (literals + distances) (literals + distances) [] s
  let literalLengths := all.take literals
  let distanceLengths := all.drop literals
  if literalLengths.getD endOfBlock 0 = 0 then none
  if !PrefixCode.isUsable literalLengths ∨ !PrefixCode.isUsable distanceLengths then none
  some (⟨.ofLengths literalLengths, .ofLengths distanceLengths⟩, s)

/-- What a step leads to: a state from which to go on, or the end. -/
inductive Step where
  | next (state : Inflating)
  | done (result : Inflated)

/-- The end at a fault. -/
def fail (content : Array UInt8) : Step := .done ⟨content, .failed⟩

/-- Go on from a state, unless its content is beyond the limit. -/
def within (limit : Option Nat) (state : Inflating) : Step :=
  match limit with
  | some n => if n < state.content.size then .done ⟨state.content, .beyondLimit⟩ else .next state
  | none => .next state

/-- Read a match of earlier content, of which the symbol has been read. -/
def stepMatch (limit : Option Nat) (codes : BlockCodes) (symbol : Nat) (state : Inflating) : Step :=
  match extended? lengthSymbols (symbol - (endOfBlock + 1)) state.stream with
  | none => fail state.content
  | some (length, s) =>
    match codes.distances.decode s with
    | none => fail state.content
    | some (symbol, s) =>
      match extended? distanceSymbols symbol s with
      | none => fail state.content
      | some (distance, s) =>
        if state.content.size < distance then fail state.content
        else within limit ⟨s, repeatBytes distance length state.content⟩

/-- Read the symbols of a block up to its end, at most as many as `fuel` tells. -/
def inflateSymbols (limit : Option Nat) (codes : BlockCodes) : Nat → Inflating → Step
  | 0, state => fail state.content
  | fuel + 1, state =>
    match codes.literals.decode state.stream with
    | none => fail state.content
    | some (symbol, s) =>
      if symbol = endOfBlock then .next ⟨s, state.content⟩
      else
        let step :=
          if symbol < endOfBlock then
            within limit ⟨s, state.content.push (UInt8.ofNat symbol)⟩
          else stepMatch limit codes symbol ⟨s, state.content⟩
        match step with
        | .next state => inflateSymbols limit codes fuel state
        | .done result => .done result

/-- Read a block of symbols with the given codes. -/
def inflateCoded (limit : Option Nat) (codes : BlockCodes) (state : Inflating) : Step :=
  inflateSymbols limit codes (state.stream.size + 1) state

/-- Read a block that holds its content as it is. The length is written twice, the second time with
all bits inverted. -/
def inflateStored (limit : Option Nat) (state : Inflating) : Step :=
  match state.stream.bytes with
  | l :: h :: l' :: h' :: bytes =>
    if l.toNat + l'.toNat = 255 ∧ h.toNat + h'.toNat = 255 then
      let length := l.toNat + 256 * h.toNat
      let content := state.content ++ bytes.take length
      match within limit ⟨⟨[], bytes.drop length⟩, content⟩ with
      | .next state => if bytes.length < length then fail content else .next state
      | .done result => .done result
    else fail state.content
  | _ => fail state.content

/-- Read a block of the given kind. -/
def inflateBlock (limit : Option Nat) (kind : Nat) (state : Inflating) : Step :=
  match kind with
  | 0 => inflateStored limit state
  | 1 => inflateCoded limit standardCodes state
  | 2 =>
    match readCodes state.stream with
    | none => fail state.content
    | some (codes, s) => inflateCoded limit codes ⟨s, state.content⟩
  | _ => fail state.content

/-- Read the checksum after the last block. -/
def finish (state : Inflating) : Inflated :=
  let matching := state.stream.bytes.take 4 = (Checksum.ofBytes state.content.toList).toBytes
  ⟨state.content, if matching then .complete else .failed⟩

/-- Read blocks up to the last one and the checksum after it, at most as many blocks as `fuel`
tells. -/
def inflateBlocks (limit : Option Nat) : Nat → Inflating → Inflated
  | 0, state => ⟨state.content, .failed⟩
  | fuel + 1, state =>
    match state.stream.number? 3 with
    | none => ⟨state.content, .failed⟩
    | some (header, s) =>
      match inflateBlock limit (header / 2) ⟨s, state.content⟩ with
      | .done result => result
      | .next state => if header % 2 = 1 then finish state else inflateBlocks limit fuel state

/-- Whether two bytes begin a zlib stream with the usual window. -/
def isHeader (cmf flg : UInt8) : Bool := cmf = 0x78 && (256 * cmf.toNat + flg.toNat) % 31 = 0

/-- Whether the second byte of a stream asks for a dictionary to begin with, which there is not. -/
def needsDictionary (flg : UInt8) : Bool := flg.toNat.testBit 5

/-- Restore the content of a zlib stream, up to the limit if there is one. -/
def inflate (limit : Option Nat) (stream : List UInt8) : Inflated :=
  match stream with
  | cmf :: flg :: bytes =>
    if isHeader cmf flg && !needsDictionary flg then
      inflateBlocks limit (8 * bytes.length + 1) ⟨⟨[], bytes⟩, #[]⟩
    else ⟨#[], .failed⟩
  | _ => ⟨#[], .failed⟩

end TextAnalysis.Blob
