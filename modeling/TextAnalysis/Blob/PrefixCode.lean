import TextAnalysis.Blob.Bits

/-!
# Prefix codes

A prefix code is given by the length of each symbol's code. Codes of one length are consecutive numbers
in the order of their symbols, and follow those of the shorter codes.
-/

namespace TextAnalysis.Blob

/-- The greatest length of a code. -/
def greatestCodeLength : Nat := 15

/-- A prefix code: for each length from one on, the symbols whose codes have it, in order. -/
structure PrefixCode where
  groups : List (List Nat)
deriving Repr, DecidableEq

namespace PrefixCode

/-- The code in which symbol `i` has a code of length `lengths[i]`, or none if that is zero. -/
def ofLengths (lengths : List Nat) : PrefixCode :=
  ⟨(List.range greatestCodeLength).map fun n =>
    (lengths.zipIdx.filter fun p => p.1 = n + 1).map Prod.snd⟩

/-- The share of all bit strings that begin with a code, in units of `2 ^ -15`. -/
def share (lengths : List Nat) : Nat :=
  (lengths.map fun n => if n = 0 then 0 else Nat.pow 2 (greatestCodeLength - n)).foldr (· + ·) 0

/-- Whether every bit string begins with exactly one code. -/
def isComplete (lengths : List Nat) : Bool := share lengths = Nat.pow 2 greatestCodeLength

/-- Whether the lengths are those of a complete code, or of at most one code of one bit. -/
def isUsable (lengths : List Nat) : Bool :=
  isComplete lengths || (lengths.all (· ≤ 1) && lengths.count 1 ≤ 1)

/-- Read a symbol whose code is at least as long as those of the first of the groups. The codes of that
length are numbered from the one that follows all shorter codes; `offset` is what was read so far,
counted from there. -/
def decodeGroups : List (List Nat) → Nat → BitStream → Option (Nat × BitStream)
  | [], _, _ => none
  | group :: groups, offset, s =>
    match s.bit? with
    | none => none
    | some (b, s) =>
      let offset := 2 * offset + b.toNat
      match group[offset]? with
      | some symbol => some (symbol, s)
      | none => decodeGroups groups (offset - group.length) s

/-- Read a symbol. -/
def decode (c : PrefixCode) (s : BitStream) : Option (Nat × BitStream) :=
  decodeGroups c.groups 0 s

end PrefixCode

end TextAnalysis.Blob
