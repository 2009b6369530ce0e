import TextAnalysis.Error

/-!
# Size prefixes

The size of a blob's content is written in one to five bytes of seven bits each, the most significant
bits first. The last byte has its high bit set and the others have it clear. No byte is wasted on
leading zeros.
-/

namespace TextAnalysis.Blob

/-- The greatest number of bytes in a size prefix. -/
def greatestPrefixLength : Nat := 5

/-- The number of sizes that can be written. -/
def sizeLimit : Nat := 0x100000000

/-- The bytes of a number in groups of seven bits before the last one, at most as many as `fuel`
tells. -/
def leadingGroups : Nat → Nat → List UInt8
  | 0, _ => []
  | fuel + 1, n =>
    if n = 0 then [] else leadingGroups fuel (n / 128) ++ [UInt8.ofNat (n % 128)]

/-- The size prefix of a size. -/
def encodeSize (n : Nat) : List UInt8 :=
  leadingGroups (greatestPrefixLength - 1) (n / 128) ++ [UInt8.ofNat (128 + n % 128)]

/-- Why a size prefix could not be read. -/
inductive SizeFault where
  | incomplete
  | overflow
deriving Repr, DecidableEq

/-- A fault as an error. -/
def SizeFault.toError : SizeFault → Error
  | incomplete => .compression "Incomplete VarInt"
  | overflow => .compression "VarInt overflow"

/-- Read the rest of a size prefix of at most `fuel` more bytes, of which the bytes before had the value
`n`. -/
def decodeGroups : Nat → Nat → List UInt8 → Except SizeFault (Nat × List UInt8)
  | 0, _, _ => .error .incomplete
  | _ + 1, _, [] => .error .incomplete
  | fuel + 1, n, b :: bytes =>
    let value := 128 * n + b.toNat % 128
    if b.toNat < 128 then decodeGroups fuel value bytes
    else if value < sizeLimit then .ok (value, bytes)
    else .error .overflow

/-- Read a size prefix, and give the bytes after it. -/
def decodeSize (bytes : List UInt8) : Except SizeFault (Nat × List UInt8) :=
  decodeGroups greatestPrefixLength 0 bytes

end TextAnalysis.Blob
