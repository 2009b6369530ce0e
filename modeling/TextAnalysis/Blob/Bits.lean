/-!
# Streams of bits

A stream of bytes is read bit by bit, the least significant bit of each byte first, or byte by byte.
-/

namespace TextAnalysis.Blob

/-- What is left of a stream: the bits of a byte that has been begun, and the bytes after it. -/
structure BitStream where
  bits : List Bool := []
  bytes : List UInt8
deriving Repr, DecidableEq

/-- The bits of a byte, the least significant first. -/
def bitsOfByte (b : UInt8) : List Bool := (List.range 8).map fun i => b.toNat.testBit i

namespace BitStream

/-- The number of bits that are left. -/
def size (s : BitStream) : Nat := s.bits.length + 8 * s.bytes.length

/-- Read one bit. -/
def bit? (s : BitStream) : Option (Bool × BitStream) :=
  match s.bits with
  | b :: bits => some (b, { s with bits })
  | [] =>
    match s.bytes with
    | [] => none
    | byte :: bytes => some (byte.toNat.testBit 0, ⟨(bitsOfByte byte).tail, bytes⟩)

/-- Read a number of `n` bits, the least significant first. -/
def number? : Nat → BitStream → Option (Nat × BitStream)
  | 0, s => some (0, s)
  | n + 1, s =>
    match s.bit? with
    | none => none
    | some (b, s) =>
      match number? n s with
      | none => none
      | some (v, s) => some (b.toNat + 2 * v, s)

/-- Pass over the bits that are left of a byte that has been begun. -/
def align (s : BitStream) : BitStream := { s with bits := [] }

end BitStream

end TextAnalysis.Blob
