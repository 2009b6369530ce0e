import TextAnalysis.Proofs.Blob.Inflate

/-!
# Which streams are whole

Inflation accepts nothing else than zlib streams. What a step has made of the content is told by the bits that
it has taken. So a stream is read to a proper end only if it begins with a zlib stream of what is restored.
-/

namespace TextAnalysis.Blob

open PrefixCode

/-! ### Steps -/

/-- Where the stream holds just these bits, the step leads to a state in which it has taken some of them, which
stand for the content, or it fails. -/
structure Makes (step : Step) (bits : List Bool) (stands : List Bool → List UInt8 → Prop) : Prop where
  reached : ∀ {s' content}, step = .next ⟨s', content⟩ →
    ∃ taken rest, bits = taken ++ rest ∧ s'.Holds rest ∧ stands taken content.toList
  ended : ∀ {result}, step = .done result → result.ending = .failed

namespace Makes

variable {bits : List Bool} {stands : List Bool → List UInt8 → Prop}

/-- A fault makes nothing. -/
theorem fail (content : Array UInt8) : Makes (fail content) bits stands where
  reached h := by cases h
  ended h := by cases h; rfl

/-- Where a step has led already no bits are taken. -/
theorem next {s : BitStream} {content : Array UInt8} (holds : s.Holds bits) (h : stands [] content.toList) :
    Makes (.next ⟨s, content⟩) bits stands where
  reached eq := by
    obtain ⟨rfl, rfl⟩ := Inflating.mk.inj (Step.next.inj eq)
    exact ⟨[], bits, rfl, holds, h⟩
  ended eq := by cases eq

/-- What stands for less may be said too. -/
theorem mono {step : Step} {stands' : List Bool → List UInt8 → Prop} (h : Makes step bits stands)
    (follows : ∀ taken after, stands taken after → stands' taken after) : Makes step bits stands' where
  reached eq := by
    obtain ⟨taken, rest, eq, holds', standing⟩ := h.reached eq
    exact ⟨taken, rest, eq, holds', follows _ _ standing⟩
  ended eq := h.ended eq

/-- After some bits a step takes more. -/
theorem prepend {step : Step} {taken rest : List Bool}
    (h : Makes step rest fun more after => stands (taken ++ more) after) :
    Makes step (taken ++ rest) stands where
  reached eq := by
    obtain ⟨more, rest, rfl, holds', standing⟩ := h.reached eq
    exact ⟨taken ++ more, rest, (List.append_assoc ..).symm, holds', standing⟩
  ended eq := h.ended eq

/-- A step that goes on as another one takes the bits of both. -/
theorem andThen {step : Step} {goOn : Inflating → Step} {stands₁ : List Bool → List UInt8 → Prop}
    (first : Makes step bits stands₁)
    (second : ∀ (s : BitStream) (content : Array UInt8) (taken rest : List Bool), bits = taken ++ rest →
      s.Holds rest → stands₁ taken content.toList →
      Makes (goOn ⟨s, content⟩) rest fun more after => stands (taken ++ more) after) :
    Makes (step.andThen goOn) bits stands := by
  cases step with
  | done result =>
    refine ⟨fun eq => ?_, fun eq => ?_⟩
    · cases eq
    · exact first.ended eq
  | next state =>
    obtain ⟨taken, rest, rfl, holds, h⟩ := first.reached rfl
    exact prepend (second _ _ taken rest rfl holds h)

end Makes

/-- A step that reads something and goes on takes the bits of both. -/
theorem Takes.makes {α : Type} {read : BitStream → Option (α × BitStream)} {stands₁ : α → List Bool → Prop}
    (first : Takes read stands₁) {s : BitStream} {bits : List Bool} {step : Step}
    {stands : List Bool → List UInt8 → Prop} (holds : s.Holds bits)
    (eq_none : read s = none → ∃ content, step = fail content)
    (second : ∀ a s₁ taken rest, read s = some (a, s₁) → bits = taken ++ rest → s₁.Holds rest →
      stands₁ a taken → Makes step rest fun more after => stands (taken ++ more) after) :
    Makes step bits stands := by
  cases found : read s with
  | none =>
    obtain ⟨content, rfl⟩ := eq_none found
    exact .fail content
  | some p =>
    obtain ⟨taken, rest, rfl, holds₁, h⟩ := first holds found
    exact .prepend (second p.1 p.2 taken rest found rfl holds₁ h)

/-! ### Symbols -/

/-- The bits that are taken for a copy stand for its length and its distance. -/
private theorem takes_readCopy (distances : List Nat) (i : Nat) :
    Takes (readCopy (ofLengths distances) i) fun copy taken =>
      ∃ j least extra n leastDistance extraDistance m distanceCode,
        lengthSymbols[i]? = some (least, extra) ∧ n < 2 ^ extra ∧ IsCode distances j distanceCode ∧
          distanceSymbols[j]? = some (leastDistance, extraDistance) ∧ m < 2 ^ extraDistance ∧
          copy = (least + n, leastDistance + m) ∧
          taken = numberBits extra n ++ (distanceCode ++ numberBits extraDistance m) := by
  refine (takes_extended? lengthSymbols i).andThen
    (fun length s => ((ofLengths distances).decode s).bind fun p =>
      (extended? distanceSymbols p.1 p.2).map fun q => ((length, q.1), q.2)) ?_ fun s => ?_
  · rintro _ _ ⟨least, extra, n, length_eq, n_lt, rfl, rfl⟩
    refine (takes_decode distances).andThen
      (fun j s => (extended? distanceSymbols j s).map fun q => ((least + n, q.1), q.2))
      (fun j code isCode => ?_) fun s => rfl
    refine (takes_extended? distanceSymbols j).map (fun d => (least + n, d)) ?_
    rintro _ _ ⟨leastDistance, extraDistance, m, distance_eq, m_lt, rfl, rfl⟩
    exact ⟨j, least, extra, n, leastDistance, extraDistance, m, code, length_eq, n_lt, isCode, distance_eq,
      m_lt, rfl, rfl⟩
  · rw [readCopy]
    cases extended? lengthSymbols i s with
    | none => rfl
    | some p =>
      dsimp only [Option.bind_some]
      cases (ofLengths distances).decode p.2 <;> rfl

/-- The bits that are taken up to the end of a block are its symbols. -/
theorem makes_inflateSymbols (literals distances : List Nat) (fuel : Nat) (before : List UInt8)
    {s : BitStream} {bits : List Bool} (holds : s.Holds bits) :
    Makes (inflateSymbols none ⟨ofLengths literals, ofLengths distances⟩ fuel ⟨s, before.toArray⟩) bits
      (SymbolBits literals distances before) := by
  induction fuel generalizing before s bits with
  | zero => exact .fail _
  | succ fuel ih =>
    rw [inflateSymbols_succ]
    refine (takes_decode literals).makes holds (fun none => ⟨before.toArray, by rw [none]⟩) ?_
    intro symbol s₁ code rest found _ holds₁ isCode
    rw [found]
    dsimp only
    by_cases ends : symbol = endOfBlock
    · rw [if_pos ends]
      rw [ends] at isCode
      exact .next holds₁ (by rw [List.append_nil]; exact .done before isCode)
    · rw [if_neg ends]
      by_cases byte : symbol < endOfBlock
      · rw [if_pos byte, List.push_toArray]
        have value : (UInt8.ofNat symbol).toNat = symbol := UInt8.toNat_ofNat_of_lt byte
        rw [← value] at isCode
        exact (ih (before ++ [UInt8.ofNat symbol]) holds₁).mono fun more after h => .byte isCode h
      · rw [if_neg byte]
        obtain ⟨i, rfl⟩ : ∃ i, symbol = endOfBlock + 1 + i := ⟨symbol - (endOfBlock + 1), by omega⟩
        refine (takes_readCopy distances i).makes holds₁
          (fun none => ⟨before.toArray, by rw [stepMatch_eq, none]; rfl⟩) ?_
        intro copy s₂ taken rest₂ found₂ _ holds₂ stands
        obtain ⟨j, least, extra, n, leastDistance, extraDistance, m, distanceCode, length_eq, n_lt,
          isDistanceCode, distance_eq, m_lt, rfl, rfl⟩ := stands
        rw [stepMatch_eq, found₂]
        dsimp only
        by_cases short : before.toArray.size < leastDistance + m
        · rw [if_pos short]
          exact .fail _
        · rw [if_neg short, repeatBytes_toArray]
          refine (ih (copied (leastDistance + m) (least + n) before) holds₂).mono fun more after h => ?_
          simp only [List.append_assoc]
          exact .copy isCode length_eq n_lt isDistanceCode distance_eq m_lt (Nat.not_lt.mp short) h

/-! ### Blocks -/

/-- The four bytes before a content that stands as it is tell its length. -/
private theorem lengthBytes_eq {l h l' h' : UInt8} (low : l.toNat + l'.toNat = 255)
    (high : h.toNat + h'.toNat = 255) : lengthBytes (l.toNat + 256 * h.toNat) = [l, h, l', h'] := by
  have := l.toNat_lt
  have first : (l.toNat + 256 * h.toNat) % 256 = l.toNat := by omega
  have second : (l.toNat + 256 * h.toNat) / 256 = h.toNat := by omega
  have third : 255 - l.toNat = l'.toNat := by omega
  have fourth : 255 - h.toNat = h'.toNat := by omega
  rw [lengthBytes, first, second, third, fourth]
  simp only [UInt8.ofNat_toNat]

private theorem makes_inflateStored (isLast : Bool) {position : Nat} {before : List UInt8} {s : BitStream}
    {bits : List Bool} (aligned : (position + 3 + s.size) % 8 = 0) (holds : s.Holds bits) :
    Makes (inflateStored none ⟨s, before.toArray⟩) bits fun taken after =>
      BlockBits isLast position before (isLast :: false :: false :: taken) after := by
  unfold inflateStored
  dsimp only
  split
  · next l h l' h' bytes bytes_eq =>
    split
    · next inverted =>
      have written := lengthBytes_eq inverted.1 inverted.2
      have small : l.toNat + 256 * h.toNat < 65536 := by
        have := l.toNat_lt
        have := h.toNat_lt
        omega
      generalize l.toNat + 256 * h.toNat = n at written small ⊢
      dsimp only [within]
      split
      · exact .fail _
      · next long =>
        have size : s.size = s.bits.length + 8 * s.bytes.length := rfl
        have length : (bytes.take n).length = n := List.length_take_of_le (Nat.not_lt.mp long)
        have split : bits =
            s.bits ++ bitsOf (lengthBytes n ++ bytes.take n) ++ bitsOf (bytes.drop n) := by
          rw [List.append_assoc, ← bitsOf_append, written, List.append_assoc, List.take_append_drop,
            ← holds.toBits_eq, BitStream.toBits, bytes_eq]
          rfl
        have block : BlockBits isLast position before
            (isLast :: false :: false :: (s.bits ++ bitsOf (lengthBytes (bytes.take n).length ++ bytes.take n)))
            (before ++ bytes.take n) :=
          .stored holds.begun (by omega) (by rwa [length])
        rw [length] at block
        rw [split]
        refine .prepend (.next (BitStream.holds_bytes _) ?_)
        rw [List.append_nil]
        simpa using block
    · exact .fail _
  · exact .fail _

/-- The header of a block tells its kind and whether it is the last one. -/
private theorem makes_inflateBlock (isLast : Bool) (kind : Nat) {position : Nat} {before : List UInt8}
    {s : BitStream} {bits : List Bool} (aligned : (position + 3 + s.size) % 8 = 0) (holds : s.Holds bits) :
    Makes (inflateBlock none kind ⟨s, before.toArray⟩) bits fun taken after =>
      BlockBits isLast position before (numberBits 3 (isLast.toNat + 2 * kind) ++ taken) after := by
  unfold inflateBlock
  split
  · cases isLast
    · exact makes_inflateStored false aligned holds
    · exact makes_inflateStored true aligned holds
  · refine (makes_inflateSymbols standardLiterals standardDistances _ before holds).mono fun taken after h => ?_
    have block : BlockBits isLast position before (isLast :: true :: false :: taken) after := .standard h
    cases isLast <;> exact block
  · refine takes_readCodes.makes holds (fun none => ⟨before.toArray, by rw [none]⟩) ?_
    rintro _ s₁ codes rest found rfl holds₁ ⟨literals, distances, rfl, brings⟩
    rw [found]
    refine (makes_inflateSymbols literals distances _ before holds₁).mono fun taken after h => ?_
    have block : BlockBits isLast position before (isLast :: false :: true :: (codes ++ taken)) after :=
      .coded brings h
    cases isLast <;> exact block
  · exact .fail _

/-- The bits that are taken up to the end of the last block are blocks. -/
theorem makes_inflateToLast (fuel position : Nat) (before : List UInt8) {s : BitStream} {bits : List Bool}
    (aligned : (position + s.size) % 8 = 0) (holds : s.Holds bits) :
    Makes (inflateToLast none fuel ⟨s, before.toArray⟩) bits (BlocksBits position before) := by
  induction fuel generalizing position before s bits with
  | zero => exact .fail _
  | succ fuel ih =>
    rw [inflateToLast]
    refine (Takes.number? 3).makes holds (fun none => ⟨before.toArray, by rw [none]⟩) ?_
    rintro header s₁ _ rest found rfl holds₁ ⟨-, rfl⟩
    rw [found]
    dsimp only
    obtain ⟨isLast, last_iff, header_eq⟩ :
        ∃ isLast : Bool, (header % 2 = 1 ↔ isLast = true) ∧ header = isLast.toNat + 2 * (header / 2) := by
      rcases Nat.mod_two_eq_zero_or_one header with even | odd
      · exact ⟨false, by simp [even], by simp; omega⟩
      · exact ⟨true, by simp [odd], by simp; omega⟩
    have size := holds.size_eq
    have size₁ := holds₁.size_eq
    rw [List.length_append, length_numberBits] at size
    have aligned₁ : (position + 3 + s₁.size) % 8 = 0 := by omega
    refine (makes_inflateBlock isLast (header / 2) aligned₁ holds₁).andThen ?_
    rintro s₂ content taken₂ rest₂ rfl holds₂ block
    rw [← header_eq] at block
    have size₂ := holds₂.size_eq
    rw [List.length_append] at size size₁
    by_cases last : header % 2 = 1
    · rw [if_pos last]
      rw [last_iff.mp last] at block
      exact .next holds₂ (by rw [List.append_nil]; exact .last block)
    · rw [if_neg last]
      rw [Bool.eq_false_iff.mpr (mt last_iff.mpr last)] at block
      have length : (numberBits 3 header ++ taken₂).length = 3 + taken₂.length := by simp
      refine (ih (position + (numberBits 3 header ++ taken₂).length) content.toList (by omega) holds₂).mono ?_
      intro more after blocks
      rw [← List.append_assoc]
      exact .more block blocks

/-! ### Streams -/

/-- Where the bits of some bytes are bits before the bits of others, the bytes are bytes before the others. -/
private theorem exists_of_bitsOf_eq_append_bitsOf {bytes back : List UInt8} {front : List Bool}
    (h : bitsOf bytes = front ++ bitsOf back) : ∃ body, bytes = body ++ back ∧ bitsOf body = front := by
  have length := congrArg List.length h
  rw [List.length_append, length_bitsOf, length_bitsOf] at length
  have parts := List.take_append_drop (bytes.length - back.length) bytes
  rw [← parts, bitsOf_append] at h
  obtain ⟨body, rest⟩ := List.append_inj' h (by rw [length_bitsOf, length_bitsOf, List.length_drop]; omega)
  rw [bitsOf_inj rest] at parts
  exact ⟨_, parts.symm, body⟩

/-- Where the content is complete the checksum of it follows. -/
private theorem checksum_of_finish {state : Inflating} {content : Array UInt8}
    (h : finish state = ⟨content, .complete⟩) :
    state.content = content ∧ ∃ rest, state.stream.bytes = (Checksum.ofBytes content.toList).toBytes ++ rest := by
  obtain ⟨rfl, ending⟩ := Inflated.mk.inj h
  split at ending
  · next checksum => exact ⟨rfl, state.stream.bytes.drop 4, by rw [← checksum, List.take_append_drop]⟩
  · cases ending

private theorem exists_isStreamOf {content : Array UInt8} {stream : List UInt8}
    (h : inflate none stream = ⟨content, .complete⟩) :
    ∃ front rest, stream = front ++ rest ∧ IsStreamOf content.toList front := by
  unfold inflate at h
  split at h
  · next cmf flg bytes =>
    split at h
    · next accepted =>
      obtain ⟨header, plain⟩ := Bool.and_eq_true_iff.mp accepted
      obtain rfl : cmf = 0x78 := of_decide_eq_true (Bool.and_eq_true_iff.mp header).1
      have makes := makes_inflateToLast (8 * bytes.length + 1) 0 []
        (show (0 + BitStream.size ⟨[], bytes⟩) % 8 = 0 by simp [BitStream.size])
        (BitStream.holds_bytes bytes)
      rw [inflateBlocks_eq] at h
      cases step : inflateToLast none (8 * bytes.length + 1) ⟨⟨[], bytes⟩, #[]⟩ with
      | done result =>
        rw [step] at h
        have failed := makes.ended step
        rw [show result = _ from h] at failed
        cases failed
      | next state =>
        rw [step] at h
        obtain ⟨⟨padding, left⟩, restored⟩ := state
        obtain ⟨taken, _, split, ⟨rfl, short⟩, blocks⟩ := makes.reached step
        obtain ⟨rfl, rest, left_eq⟩ := checksum_of_finish h
        rw [BitStream.toBits, ← List.append_assoc] at split
        obtain ⟨body, rfl, body_eq⟩ := exists_of_bitsOf_eq_append_bitsOf split
        refine ⟨_, rest, ?_, .stream header (by simpa using plain) blocks short body_eq⟩
        rw [List.cons_append, List.cons_append, List.append_assoc, ← left_eq]
    · cases h
  · cases h

/-- A stream is read to a proper end just if it begins with a zlib stream. What is restored is the content of
that, and what follows does not matter. -/
theorem inflate_eq_complete_iff {content stream : List UInt8} :
    inflate none stream = ⟨content.toArray, .complete⟩ ↔
      ∃ front rest, stream = front ++ rest ∧ IsStreamOf content front := by
  constructor
  · exact exists_isStreamOf
  · rintro ⟨front, rest, rfl, isStream⟩
    exact inflate_append isStream (fun n none => by cases none) rest

end TextAnalysis.Blob
