import TextAnalysis.Proofs.Blob.Cut
import TextAnalysis.Proofs.Blob.Format

/-!
# Laws of streams of bits

A stream is known by the bits that it holds. What a reader does is said by the bits that it takes off the
stream: it gives what they stand for if all of them are there, whatever follows, and nothing if the stream
ends before. Readers are put together, and their bits are put one after another.
-/

namespace TextAnalysis.Blob

/-! ### Bits of bytes and numbers -/

/-- A byte has eight bits. -/
@[simp] theorem length_bitsOfByte (b : UInt8) : (bitsOfByte b).length = 8 := by
  simp [bitsOfByte]

theorem bitsOf_cons (b : UInt8) (bytes : List UInt8) :
    bitsOf (b :: bytes) = bitsOfByte b ++ bitsOf bytes := rfl

@[simp] theorem bitsOf_append (front back : List UInt8) :
    bitsOf (front ++ back) = bitsOf front ++ bitsOf back := by
  simp [bitsOf]

/-- Bytes have eight bits each. -/
@[simp] theorem length_bitsOf (bytes : List UInt8) : (bitsOf bytes).length = 8 * bytes.length := by
  induction bytes with
  | nil => rfl
  | cons b bytes ih =>
    rw [bitsOf_cons, List.length_append, length_bitsOfByte, ih, List.length_cons]
    omega

/-- A byte is known by its bits. -/
theorem bitsOfByte_inj {a b : UInt8} (h : bitsOfByte a = bitsOfByte b) : a = b := by
  apply UInt8.toNat_inj.mp
  apply Nat.eq_of_testBit_eq
  intro i
  by_cases hi : i < 8
  · exact List.map_inj_left.mp h i (List.mem_range.mpr hi)
  · have large : 2 ^ 8 ≤ 2 ^ i := Nat.pow_le_pow_right (by decide) (by omega)
    rw [Nat.testBit_lt_two_pow (Nat.lt_of_lt_of_le a.toNat_lt large),
      Nat.testBit_lt_two_pow (Nat.lt_of_lt_of_le b.toNat_lt large)]

/-- If the bits of some bytes begin with those of others, the bytes begin with the others. -/
theorem exists_of_bitsOf_eq_append {front bytes : List UInt8} {rest : List Bool}
    (h : bitsOf bytes = bitsOf front ++ rest) :
    ∃ back, bytes = front ++ back ∧ rest = bitsOf back := by
  induction front generalizing bytes with
  | nil => exact ⟨bytes, rfl, h.symm⟩
  | cons a front ih =>
    cases bytes with
    | nil =>
      have := congrArg List.length h
      simp only [length_bitsOf, List.length_append, List.length_cons, List.length_nil] at this
      omega
    | cons b bytes =>
      rw [bitsOf_cons, bitsOf_cons, List.append_assoc] at h
      obtain ⟨hb, hs⟩ := List.append_inj h (by simp)
      obtain rfl := bitsOfByte_inj hb
      obtain ⟨back, rfl, hr⟩ := ih hs
      exact ⟨back, rfl, hr⟩

/-- Bytes are known by their bits. -/
theorem bitsOf_inj {a b : List UInt8} (h : bitsOf a = bitsOf b) : a = b := by
  obtain ⟨back, rfl, hn⟩ := exists_of_bitsOf_eq_append (h.trans (List.append_nil _).symm)
  have length := congrArg List.length hn
  rw [length_bitsOf, List.length_nil] at length
  obtain rfl : back = [] := List.length_eq_zero_iff.mp (by omega)
  exact List.append_nil b

/-- Bytes are cut off where their bits are. -/
theorem isCutOf_bitsOf_iff {part whole : List UInt8} :
    IsCutOf (bitsOf part) (bitsOf whole) ↔ IsCutOf part whole := by
  constructor
  · rintro ⟨b, rest, h⟩
    obtain ⟨back, rfl, hb⟩ := exists_of_bitsOf_eq_append h
    cases back with
    | nil => simp [bitsOf] at hb
    | cons a back => exact ⟨a, back, rfl⟩
  · rintro ⟨a, rest, rfl⟩
    rw [bitsOf_append, bitsOf_cons]
    exact ⟨_, _, rfl⟩

@[simp] theorem length_numberBits (width n : Nat) : (numberBits width n).length = width := by
  induction width generalizing n with
  | zero => rfl
  | succ width ih => rw [numberBits, List.length_cons, ih]

/-! ### Reading -/

namespace BitStream

/-- The bits that are left. -/
def toBits (s : BitStream) : List Bool := s.bits ++ bitsOf s.bytes

/-- The stream holds just these bits, less than eight of them in a byte that has been begun. -/
structure Holds (s : BitStream) (bits : List Bool) : Prop where
  toBits_eq : s.toBits = bits
  begun : s.bits.length < 8

/-- Bytes of which none has been begun hold their bits. -/
theorem holds_bytes (bytes : List UInt8) : Holds ⟨[], bytes⟩ (bitsOf bytes) := ⟨rfl, by simp⟩

/-- The size of a stream is the number of bits that it holds. -/
theorem Holds.size_eq {s : BitStream} {bits : List Bool} (h : s.Holds bits) : s.size = bits.length := by
  rw [← h.toBits_eq, toBits, List.length_append, length_bitsOf, size]

/-- The first bit is read first. -/
theorem Holds.bit?_eq {s : BitStream} {b : Bool} {rest : List Bool} (h : s.Holds (b :: rest)) :
    ∃ s', s.bit? = some (b, s') ∧ s'.Holds rest := by
  obtain ⟨bits, bytes⟩ := s
  obtain ⟨ht, hb⟩ := h
  cases bits with
  | cons a bits =>
    obtain ⟨rfl, hr⟩ := List.cons.inj ht
    refine ⟨⟨bits, bytes⟩, rfl, hr, ?_⟩
    simp only [List.length_cons] at hb ⊢
    omega
  | nil =>
    cases bytes with
    | nil => cases ht
    | cons byte bytes =>
      obtain ⟨rfl, hr⟩ := List.cons.inj ht
      exact ⟨⟨(bitsOfByte byte).tail, bytes⟩, rfl, hr, by simp⟩

/-- There is no bit to read at the end. -/
theorem Holds.bit?_eq_none {s : BitStream} (h : s.Holds []) : s.bit? = none := by
  obtain ⟨bits, bytes⟩ := s
  have length := h.size_eq
  simp only [size, List.length_nil] at length
  obtain rfl : bits = [] := List.length_eq_zero_iff.mp (by omega)
  obtain rfl : bytes = [] := List.length_eq_zero_iff.mp (by omega)
  rfl

/-- Where the bits of whole bytes follow, the bits before them are those that are left of the byte that has
been begun. -/
theorem Holds.bitsOf_bytes {s : BitStream} {padding rest : List Bool} (h : s.Holds (padding ++ rest))
    (short : padding.length < 8) (aligned : rest.length % 8 = 0) : bitsOf s.bytes = rest := by
  obtain ⟨ht, hb⟩ := h
  have length := congrArg List.length ht
  simp only [toBits, List.length_append, length_bitsOf] at length
  exact (List.append_inj ht (by omega)).2

end BitStream

/-! ### Readers -/

/-- The reader takes just these bits, which stand for `a`, and takes nothing less. -/
structure Reads {α : Type} (read : BitStream → Option (α × BitStream)) (bits : List Bool) (a : α) :
    Prop where
  whole {s : BitStream} {rest : List Bool} (holds : s.Holds (bits ++ rest)) :
    ∃ s', read s = some (a, s') ∧ s'.Holds rest
  cut {s : BitStream} {part : List Bool} (holds : s.Holds part) (isCut : IsCutOf part bits) :
    read s = none

namespace Reads

variable {α β : Type}

/-- A value that is there already takes no bits. -/
theorem pure (a : α) : Reads (fun s => some (a, s)) [] a where
  whole holds := ⟨_, rfl, holds⟩
  cut _ isCut := absurd isCut (not_isCutOf_nil _)

/-- A reader that goes on as another one takes the bits of both. -/
theorem andThen {read₁ : BitStream → Option (α × BitStream)} {bits₁ bits₂ : List Bool} {a : α}
    {read₂ read : BitStream → Option (β × BitStream)} {b : β} (first : Reads read₁ bits₁ a)
    (second : Reads read₂ bits₂ b) (eq_none : ∀ s, read₁ s = none → read s = none)
    (eq_some : ∀ s s', read₁ s = some (a, s') → read s = read₂ s') :
    Reads read (bits₁ ++ bits₂) b where
  whole {s rest} holds := by
    rw [List.append_assoc] at holds
    obtain ⟨s₁, h₁, holds₁⟩ := first.whole holds
    obtain ⟨s₂, h₂, holds₂⟩ := second.whole holds₁
    exact ⟨s₂, (eq_some s s₁ h₁).trans h₂, holds₂⟩
  cut {s part} holds isCut := by
    rcases isCut.of_append with isCut₁ | ⟨part', rfl, isCut₂⟩
    · exact eq_none s (first.cut holds isCut₁)
    · obtain ⟨s₁, h₁, holds₁⟩ := first.whole holds
      exact (eq_some s s₁ h₁).trans (second.cut holds₁ isCut₂)

/-- Readers that are bound together take the bits of both. -/
theorem bind {read : BitStream → Option (α × BitStream)} {bits₁ bits₂ : List Bool} {a : α}
    {next : α × BitStream → Option (β × BitStream)} {b : β} (first : Reads read bits₁ a)
    (second : Reads (fun s => next (a, s)) bits₂ b) :
    Reads (fun s => (read s).bind next) (bits₁ ++ bits₂) b :=
  first.andThen second (fun s h => by rw [h]; rfl) fun s s' h => by rw [h]; rfl

/-- A reader that goes on without a stream takes the same bits. -/
theorem map {read : BitStream → Option (α × BitStream)} {bits : List Bool} {a : α}
    (h : Reads read bits a) (f : α → β) :
    Reads (fun s => (read s).map fun (a, s) => (f a, s)) bits (f a) := by
  rw [← List.append_nil bits]
  exact h.andThen (pure (f a)) (fun s eq => by rw [eq]; rfl) fun s s' eq => by rw [eq]; rfl

/-- A bit is read from one bit. -/
theorem bit? (b : Bool) : Reads BitStream.bit? [b] b where
  whole holds := holds.bit?_eq
  cut {s part} holds isCut := by
    obtain rfl := isCut.eq_nil
    exact holds.bit?_eq_none

/-- A number is read back from its bits. -/
theorem number? {width n : Nat} (small : n < 2 ^ width) :
    Reads (BitStream.number? width) (numberBits width n) n := by
  induction width generalizing n with
  | zero =>
    obtain rfl : n = 0 := by simpa using small
    exact pure 0
  | succ width ih =>
    have half : n / 2 < 2 ^ width := by
      rw [Nat.pow_succ] at small
      omega
    have value : (n.testBit 0).toNat + 2 * (n / 2) = n := by
      rw [Nat.testBit_zero]
      have := Nat.mod_two_eq_zero_or_one n
      rcases this with hm | hm <;> simp [hm] <;> omega
    have rest := (ih half).map fun m => (n.testBit 0).toNat + 2 * m
    rw [value] at rest
    refine (bit? (n.testBit 0)).andThen rest (fun s h => ?_) fun s s' h => ?_
    · rw [BitStream.number?, h]
    · rw [BitStream.number?, h]
      simp only
      cases BitStream.number? width s' <;> rfl

end Reads

/-! ### What readers have taken -/

/-- Whatever the reader gives, the bits that it takes off the stream stand for it. -/
def Takes {α : Type} (read : BitStream → Option (α × BitStream)) (stands : α → List Bool → Prop) : Prop :=
  ∀ ⦃s s' : BitStream⦄ ⦃bits : List Bool⦄ ⦃a : α⦄, s.Holds bits → read s = some (a, s') →
    ∃ taken rest, bits = taken ++ rest ∧ s'.Holds rest ∧ stands a taken

namespace Takes

variable {α β : Type} {stands : α → List Bool → Prop}

/-- A value that is there already takes no bits. -/
theorem pure {a : α} (h : stands a []) : Takes (fun s => some (a, s)) stands := by
  intro s s' bits a' holds found
  obtain ⟨rfl, rfl⟩ := Prod.mk.inj (Option.some.inj found)
  exact ⟨[], bits, rfl, holds, h⟩

/-- What stands for less may be said too. -/
theorem mono {read : BitStream → Option (α × BitStream)} {stands' : α → List Bool → Prop}
    (h : Takes read stands) (follows : ∀ a taken, stands a taken → stands' a taken) : Takes read stands' := by
  intro s s' bits a holds found
  obtain ⟨taken, rest, eq, holds', standing⟩ := h holds found
  exact ⟨taken, rest, eq, holds', follows a taken standing⟩

/-- A reader that goes on as another one takes the bits of both. -/
theorem andThen {read : BitStream → Option (β × BitStream)} {stands' : β → List Bool → Prop}
    {read₁ : BitStream → Option (α × BitStream)} (first : Takes read₁ stands)
    (next : α → BitStream → Option (β × BitStream))
    (second : ∀ a taken, stands a taken → Takes (next a) fun b more => stands' b (taken ++ more))
    (eq : ∀ s, read s = (read₁ s).bind fun p => next p.1 p.2) : Takes read stands' := by
  intro s s' bits b holds found
  rw [eq] at found
  obtain ⟨⟨a, s₁⟩, found₁, found₂⟩ := Option.bind_eq_some_iff.mp found
  obtain ⟨taken, rest₁, rfl, holds₁, h₁⟩ := first holds found₁
  obtain ⟨more, rest, rfl, holds', h⟩ := second a taken h₁ holds₁ found₂
  exact ⟨taken ++ more, rest, (List.append_assoc ..).symm, holds', h⟩

/-- A reader that goes on without a stream takes the same bits. -/
theorem map {read : BitStream → Option (α × BitStream)} {stands' : β → List Bool → Prop}
    (h : Takes read stands) (f : α → β) (follows : ∀ a taken, stands a taken → stands' (f a) taken) :
    Takes (fun s => (read s).map fun (a, s) => (f a, s)) stands' := by
  intro s s' bits b holds found
  obtain ⟨⟨a, s₁⟩, first, eq⟩ := Option.map_eq_some_iff.mp found
  obtain ⟨rfl, rfl⟩ := Prod.mk.inj eq
  obtain ⟨taken, rest, rfl, holds', standing⟩ := h holds first
  exact ⟨taken, rest, rfl, holds', follows a taken standing⟩

/-- One bit is taken for a bit. -/
theorem bit? : Takes BitStream.bit? fun b taken => taken = [b] := by
  intro s s' bits b holds found
  cases bits with
  | nil =>
    rw [holds.bit?_eq_none] at found
    cases found
  | cons a rest =>
    obtain ⟨s₁, first, holds₁⟩ := holds.bit?_eq
    rw [first] at found
    obtain ⟨rfl, rfl⟩ := Prod.mk.inj (Option.some.inj found)
    exact ⟨[a], rest, rfl, holds₁, rfl⟩

/-- For a number its bits are taken. -/
theorem number? (width : Nat) :
    Takes (BitStream.number? width) fun n taken => n < 2 ^ width ∧ taken = numberBits width n := by
  induction width with
  | zero => exact .pure ⟨by decide, rfl⟩
  | succ width ih =>
    refine bit?.andThen (fun b s => (s.number? width).map fun p => (b.toNat + 2 * p.1, p.2))
      (fun b taken bit => ih.map (b.toNat + 2 * ·) fun v more h => ?_) fun s => ?_
    · obtain ⟨small, rfl⟩ := h
      have := b.toNat_le
      refine ⟨by rw [Nat.pow_succ]; omega, ?_⟩
      have low : (b.toNat + 2 * v).testBit 0 = b := by
        rw [Nat.testBit_zero, Nat.add_mul_mod_self_left]
        cases b <;> rfl
      have half : (b.toNat + 2 * v) / 2 = v := by omega
      rw [bit, numberBits, low, half]
      rfl
    · rw [BitStream.number?]
      cases s.bit? with
      | none => rfl
      | some p =>
        dsimp only [Option.bind_some]
        cases p.2.number? width <;> rfl

end Takes

end TextAnalysis.Blob
