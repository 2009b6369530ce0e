/-!
# Adler-32 checksums

Two sums modulo 65521, of the bytes and of the intermediate sums.
-/

namespace TextAnalysis.Blob

/-- The modulus of the sums. -/
def checksumModulus : Nat := 65521

/-- The two sums of a checksum. -/
structure Checksum where
  plain : Nat := 1
  nested : Nat := 0
deriving Repr, DecidableEq

namespace Checksum

/-- The sums with one byte more. -/
def add (c : Checksum) (b : UInt8) : Checksum :=
  let plain := (c.plain + b.toNat) % checksumModulus
  ⟨plain, (c.nested + plain) % checksumModulus⟩

/-- The sums of some bytes. -/
def ofBytes (bytes : List UInt8) : Checksum := bytes.foldl add {}

/-- The four bytes of a checksum, the most significant first. -/
def toBytes (c : Checksum) : List UInt8 :=
  [UInt8.ofNat (c.nested / 256), UInt8.ofNat (c.nested % 256), UInt8.ofNat (c.plain / 256),
   UInt8.ofNat (c.plain % 256)]

end Checksum

end TextAnalysis.Blob
