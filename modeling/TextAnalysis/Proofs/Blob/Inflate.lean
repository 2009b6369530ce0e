import TextAnalysis.Proofs.Blob.BlockCodes

/-!
# Laws of inflation

The steps of inflation are followed along the bits of a stream. What a step leads to is said by the bits that
it takes: from the content before them to the content after them if all of them are there, and to a failure
if the stream ends before. A stream that is whole restores its content, whatever follows, and a stream that
is cut off fails. A limit that the content does not exceed changes nothing.
-/

namespace TextAnalysis.Blob

open PrefixCode

/-! ### Steps -/

/-- The step takes just these bits, which begin `position` bits after the start of a byte, and makes the
content `before` them the content `after` them. If the stream ends before they do, the step fails. More fuel
than there are bits in the stream is enough. -/
structure Leads (step : Nat → Inflating → Step) (position : Nat) (before : List UInt8) (bits : List Bool)
    (after : List UInt8) : Prop where
  whole {fuel : Nat} {s : BitStream} {rest : List Bool} (enough : s.size < fuel)
    (aligned : (position + s.size) % 8 = 0) (holds : s.Holds (bits ++ rest)) :
    ∃ s', step fuel ⟨s, before.toArray⟩ = .next ⟨s', after.toArray⟩ ∧ s'.Holds rest
  cut {fuel : Nat} {s : BitStream} {part : List Bool} (enough : s.size < fuel)
    (aligned : (position + s.size) % 8 = 0) (holds : s.Holds part) (isCut : IsCutOf part bits) :
    ∃ content, step fuel ⟨s, before.toArray⟩ = fail content

/-- Go on from the state that a step leads to, if it leads to one. -/
def Step.andThen (step : Step) (goOn : Inflating → Step) : Step :=
  match step with
  | .next state => goOn state
  | .done result => .done result

/-- Going on at once takes no bits. -/
theorem Leads.next (position : Nat) (content : List UInt8) :
    Leads (fun _ state => .next state) position content [] content where
  whole _ _ holds := ⟨_, rfl, holds⟩
  cut _ _ _ isCut := absurd isCut (not_isCutOf_nil _)

/-- A step that goes on as another one takes the bits of both. -/
theorem Leads.andThen {step₁ step₂ : Nat → Inflating → Step} {position : Nat}
    {before middle after : List UInt8} {bits₁ bits₂ : List Bool}
    (first : Leads step₁ position before bits₁ middle)
    (second : Leads step₂ (position + bits₁.length) middle bits₂ after) :
    Leads (fun fuel state => (step₁ fuel state).andThen (step₂ fuel)) position before (bits₁ ++ bits₂)
      after where
  whole {fuel s rest} enough aligned holds := by
    have size := holds.size_eq
    rw [List.append_assoc] at holds
    obtain ⟨s₁, h₁, holds₁⟩ := first.whole enough aligned holds
    have size₁ := holds₁.size_eq
    simp only [List.length_append] at size size₁
    obtain ⟨s₂, h₂, holds₂⟩ := second.whole (show s₁.size < fuel by omega) (by omega) holds₁
    refine ⟨s₂, ?_, holds₂⟩
    rw [h₁]
    exact h₂
  cut {fuel s part} enough aligned holds isCut := by
    rcases isCut.of_append with isCut₁ | ⟨part', rfl, isCut₂⟩
    · obtain ⟨content, h₁⟩ := first.cut enough aligned holds isCut₁
      refine ⟨content, ?_⟩
      rw [h₁]
      rfl
    · have size := holds.size_eq
      obtain ⟨s₁, h₁, holds₁⟩ := first.whole enough aligned holds
      have size₁ := holds₁.size_eq
      simp only [List.length_append] at size
      obtain ⟨content, h₂⟩ := second.cut (show s₁.size < fuel by omega) (by omega) holds₁ isCut₂
      refine ⟨content, ?_⟩
      rw [h₁]
      exact h₂

/-- A step that reads something and goes on as another one takes the bits of both. It may spend one unit of
fuel if it reads any bits. -/
theorem Reads.leads {α : Type} {read : BitStream → Option (α × BitStream)} {a : α}
    {step₁ step : Nat → Inflating → Step} {position spent : Nat} {before middle after : List UInt8}
    {bits₁ bits₂ : List Bool} (first : Reads read bits₁ a)
    (second : Leads step₁ (position + bits₁.length) middle bits₂ after) (spent_le : spent ≤ 1)
    (spent_le_length : spent ≤ bits₁.length)
    (eq_none : ∀ fuel s, read s = none →
      step (fuel + spent) ⟨s, before.toArray⟩ = fail before.toArray)
    (eq_some : ∀ fuel s s', read s = some (a, s') →
      step (fuel + spent) ⟨s, before.toArray⟩ = step₁ fuel ⟨s', middle.toArray⟩) :
    Leads step position before (bits₁ ++ bits₂) after where
  whole {fuel s rest} enough aligned holds := by
    obtain ⟨fuel, rfl⟩ := Nat.exists_eq_add_of_le' (show spent ≤ fuel by omega)
    have size := holds.size_eq
    rw [List.append_assoc] at holds
    obtain ⟨s₁, h₁, holds₁⟩ := first.whole holds
    have size₁ := holds₁.size_eq
    simp only [List.length_append] at size size₁
    obtain ⟨s₂, h₂, holds₂⟩ := second.whole (show s₁.size < fuel by omega) (by omega) holds₁
    exact ⟨s₂, (eq_some _ _ _ h₁).trans h₂, holds₂⟩
  cut {fuel s part} enough aligned holds isCut := by
    obtain ⟨fuel, rfl⟩ := Nat.exists_eq_add_of_le' (show spent ≤ fuel by omega)
    rcases isCut.of_append with isCut₁ | ⟨part', rfl, isCut₂⟩
    · exact ⟨_, eq_none _ _ (first.cut holds isCut₁)⟩
    · have size := holds.size_eq
      obtain ⟨s₁, h₁, holds₁⟩ := first.whole holds
      have size₁ := holds₁.size_eq
      simp only [List.length_append] at size
      obtain ⟨content, h₂⟩ := second.cut (show s₁.size < fuel by omega) (by omega) holds₁ isCut₂
      exact ⟨content, (eq_some _ _ _ h₁).trans h₂⟩

/-- The content is not beyond the limit, if there is one. -/
def Fits (limit : Option Nat) (content : List UInt8) : Prop := ∀ n ∈ limit, content.length ≤ n

/-- What is at the beginning of a content that fits fits too. -/
theorem Fits.of_isPrefix {limit : Option Nat} {before after : List UInt8} (h : Fits limit after)
    (isPrefix : before <+: after) : Fits limit before :=
  fun n hn => Nat.le_trans isPrefix.length_le (h n hn)

/-- A content within the limit is gone on from. -/
theorem Fits.within_eq_next {limit : Option Nat} {content : List UInt8} (h : Fits limit content)
    (s : BitStream) : within limit ⟨s, content.toArray⟩ = .next ⟨s, content.toArray⟩ := by
  cases limit with
  | none => rfl
  | some n =>
    have : content.length ≤ n := h n rfl
    rw [within, if_neg (by simpa using this)]

/-! ### Symbols -/

/-- Copying within an array is copying within its list. -/
theorem repeatBytes_toArray (distance length : Nat) (content : List UInt8) :
    repeatBytes distance length content.toArray = (copied distance length content).toArray := by
  induction length generalizing content with
  | zero => rfl
  | succ length ih =>
    rw [repeatBytes, copied, List.push_toArray, ih]
    simp

/-- Copying adds to the content. -/
theorem isPrefix_copied (distance length : Nat) (content : List UInt8) :
    content <+: copied distance length content := by
  induction length generalizing content with
  | zero => exact List.prefix_refl _
  | succ length ih => exact (List.prefix_append _ _).trans (ih _)

/-- Symbols add to the content. -/
theorem SymbolBits.isPrefix {literals distances : List Nat} {before after : List UInt8}
    {bits : List Bool} (h : SymbolBits literals distances before bits after) : before <+: after := by
  induction h with
  | done => exact List.prefix_refl _
  | byte _ _ ih => exact (List.prefix_append _ _).trans ih
  | copy _ _ _ _ _ _ _ _ ih => exact (isPrefix_copied _ _ _).trans ih

/-- Read the length of a copy, of which the symbol has been read, and the distance. -/
def readCopy (distances : PrefixCode) (i : Nat) (s : BitStream) : Option ((Nat × Nat) × BitStream) :=
  match extended? lengthSymbols i s with
  | none => none
  | some (length, s) =>
    match distances.decode s with
    | none => none
    | some (symbol, s) =>
      (extended? distanceSymbols symbol s).map fun (distance, s) => ((length, distance), s)

/-- A match is a copy whose length and distance are read first. -/
theorem stepMatch_eq (limit : Option Nat) (codes : BlockCodes) (i : Nat) (state : Inflating) :
    stepMatch limit codes (endOfBlock + 1 + i) state =
      match readCopy codes.distances i state.stream with
      | none => fail state.content
      | some ((length, distance), s) =>
        if state.content.size < distance then fail state.content
        else within limit ⟨s, repeatBytes distance length state.content⟩ := by
  unfold stepMatch readCopy
  rw [Nat.add_sub_cancel_left]
  cases extended? lengthSymbols i state.stream with
  | none => rfl
  | some p =>
    dsimp only
    cases codes.distances.decode p.2 with
    | none => rfl
    | some q =>
      dsimp only
      cases extended? distanceSymbols q.1 q.2 <;> rfl

private theorem reads_readCopy {distances : List Nat} (usable : isUsable distances = true)
    {i j least extra n leastDistance extraDistance m : Nat} {distanceCode : List Bool}
    (length_eq : lengthSymbols[i]? = some (least, extra)) (n_lt : n < 2 ^ extra)
    (isDistanceCode : IsCode distances j distanceCode)
    (distance_eq : distanceSymbols[j]? = some (leastDistance, extraDistance))
    (m_lt : m < 2 ^ extraDistance) :
    Reads (readCopy (ofLengths distances) i)
      (numberBits extra n ++ (distanceCode ++ numberBits extraDistance m))
      (least + n, leastDistance + m) := by
  have distance := (reads_extended? distance_eq m_lt).map fun d => (least + n, d)
  have both : Reads (fun s => ((ofLengths distances).decode s).bind fun p =>
      (extended? distanceSymbols p.1 p.2).map fun q => ((least + n, q.1), q.2))
      (distanceCode ++ numberBits extraDistance m) (least + n, leastDistance + m) :=
    (reads_decode usable isDistanceCode).bind distance
  refine (reads_extended? length_eq n_lt).andThen both (fun s h => ?_) fun s s' h => ?_
  · rw [readCopy, h]
  · rw [readCopy, h]
    dsimp only
    cases (ofLengths distances).decode s' <;> rfl

/-- The symbols of a block are read one by one. -/
theorem inflateSymbols_succ (limit : Option Nat) (codes : BlockCodes) (fuel : Nat) (state : Inflating) :
    inflateSymbols limit codes (fuel + 1) state =
      match codes.literals.decode state.stream with
      | none => fail state.content
      | some (symbol, s) =>
        if symbol = endOfBlock then .next ⟨s, state.content⟩
        else
          (if symbol < endOfBlock then
            within limit ⟨s, state.content.push (UInt8.ofNat symbol)⟩
          else stepMatch limit codes symbol ⟨s, state.content⟩).andThen
            (inflateSymbols limit codes fuel) := by
  rw [inflateSymbols]
  cases codes.literals.decode state.stream with
  | none => rfl
  | some decoded =>
    dsimp only
    generalize (if decoded.1 < endOfBlock then _ else _) = step
    cases step <;> rfl

/-- Symbols are followed up to the end of their block. -/
theorem leads_inflateSymbols {limit : Option Nat} {literals distances : List Nat}
    (literals_usable : isUsable literals = true) (distances_usable : isUsable distances = true)
    {before after : List UInt8} {bits : List Bool} (h : SymbolBits literals distances before bits after)
    (fits : Fits limit after) (position : Nat) :
    Leads (inflateSymbols limit ⟨ofLengths literals, ofLengths distances⟩) position before bits
      after := by
  induction h generalizing position with
  | @done content code isCode =>
    rw [← List.append_nil code]
    refine (reads_decode literals_usable isCode).leads (.next _ content) (Nat.le_refl 1) isCode.length_pos
      (fun fuel s h => ?_) fun fuel s s' h => ?_
    · rw [inflateSymbols, h]
    · rw [inflateSymbols, h]
      exact if_pos rfl
  | @byte before after b code bits isCode more ih =>
    have small : b.toNat < endOfBlock := b.toNat_lt
    have inside := fits.of_isPrefix more.isPrefix
    refine (reads_decode literals_usable isCode).leads (ih fits _) (Nat.le_refl 1) isCode.length_pos
      (fun fuel s h => ?_) fun fuel s s' h => ?_
    · rw [inflateSymbols, h]
    · rw [inflateSymbols, h]
      dsimp only
      rw [if_neg (by omega), if_pos small, UInt8.ofNat_toNat, List.push_toArray, inside.within_eq_next]
  | @copy before after i j least extra n leastDistance extraDistance m code distanceCode bits isCode
      length_eq n_lt isDistanceCode distance_eq m_lt reaches more ih =>
    have inside := fits.of_isPrefix more.isPrefix
    have copy : Leads (fun fuel state =>
        (stepMatch limit ⟨ofLengths literals, ofLengths distances⟩ (endOfBlock + 1 + i) state).andThen
          (inflateSymbols limit ⟨ofLengths literals, ofLengths distances⟩ fuel))
        (position + code.length) before
        ((numberBits extra n ++ (distanceCode ++ numberBits extraDistance m)) ++ bits) after := by
      refine (reads_readCopy distances_usable length_eq n_lt isDistanceCode distance_eq m_lt).leads
        (ih fits _) (Nat.zero_le 1) (Nat.zero_le _) (fun fuel s h => ?_) fun fuel s s' h => ?_
      · rw [stepMatch_eq, h]
        rfl
      · rw [stepMatch_eq, h]
        dsimp only
        rw [if_neg (by simpa using reaches), repeatBytes_toArray, inside.within_eq_next]
        rfl
    simp only [List.append_assoc] at copy
    refine (reads_decode literals_usable isCode).leads copy (Nat.le_refl 1) isCode.length_pos
      (fun fuel s h => ?_) fun fuel s s' h => ?_
    · rw [inflateSymbols, h]
    · rw [inflateSymbols, h]
      dsimp only
      rw [if_neg (by omega), if_neg (by omega)]
      generalize stepMatch limit _ _ _ = step
      cases step <;> rfl

/-- A block of symbols is followed to its end. Its fuel is the number of bits that are left, and one. -/
theorem leads_inflateCoded {limit : Option Nat} {literals distances : List Nat}
    (literals_usable : isUsable literals = true) (distances_usable : isUsable distances = true)
    {before after : List UInt8} {bits : List Bool} (h : SymbolBits literals distances before bits after)
    (fits : Fits limit after) (position : Nat) :
    Leads (fun _ => inflateCoded limit ⟨ofLengths literals, ofLengths distances⟩) position before bits
      after :=
  have symbols := leads_inflateSymbols literals_usable distances_usable h fits position
  { whole := fun _ aligned holds => symbols.whole (Nat.lt_succ_self _) aligned holds
    cut := fun _ aligned holds isCut => symbols.cut (Nat.lt_succ_self _) aligned holds isCut }

/-! ### Blocks whose content stands as it is -/

/-- What is done with the bytes after the length of a block. -/
private theorem inflateStored_eq (limit : Option Nat) {length : Nat} (small : length < 65536)
    {state : Inflating} {bytes : List UInt8} (h : state.stream.bytes = lengthBytes length ++ bytes) :
    inflateStored limit state =
      (within limit ⟨⟨[], bytes.drop length⟩, state.content ++ bytes.take length⟩).andThen fun state' =>
        if bytes.length < length then fail (state.content ++ bytes.take length) else .next state' := by
  have byte : ∀ n < 256, (UInt8.ofNat n).toNat = n := fun _ h => UInt8.toNat_ofNat_of_lt h
  have low := byte (length % 256) (by omega)
  have high := byte (length / 256) (by omega)
  have low' := byte (255 - length % 256) (by omega)
  have high' := byte (255 - length / 256) (by omega)
  have value : length % 256 + 256 * (length / 256) = length := by omega
  rw [inflateStored, h]
  simp only [lengthBytes, List.cons_append, List.nil_append, low, high, low', high', value]
  rw [if_pos (by omega)]
  generalize within limit _ = step
  cases step <;> rfl

private theorem inflateStored_of_length_lt (limit : Option Nat) {state : Inflating}
    (h : state.stream.bytes.length < 4) : inflateStored limit state = fail state.content := by
  rw [inflateStored]
  split
  · next bytes =>
    simp only [bytes, List.length_cons] at h
    omega
  · rfl

/-- A block whose content stands as it is is followed to its end. What fills up a byte before it can be told
from its position. -/
theorem leads_inflateStored {limit : Option Nat} {position : Nat} {padding : List Bool}
    {before content : List UInt8} (short : padding.length < 8)
    (ends : (position + padding.length) % 8 = 0) (small : content.length < 65536)
    (fits : Fits limit (before ++ content)) :
    Leads (fun _ => inflateStored limit) position before
      (padding ++ bitsOf (lengthBytes content.length ++ content)) (before ++ content) where
  whole {fuel s rest} _ aligned holds := by
    have size := holds.size_eq
    rw [List.append_assoc] at holds size
    rw [List.length_append] at size
    have bits := holds.bitsOf_bytes short (by omega)
    obtain ⟨back, bytes, rfl⟩ := exists_of_bitsOf_eq_append bits
    rw [List.append_assoc] at bytes
    refine ⟨⟨[], back⟩, ?_, BitStream.holds_bytes back⟩
    rw [inflateStored_eq limit small bytes]
    simp only [List.take_left, List.drop_left, List.toArray_appendList]
    rw [fits.within_eq_next, Step.andThen, if_neg (by simp)]
  cut {fuel s part} _ aligned holds isCut := by
    have size := holds.size_eq
    rcases isCut.of_append with isCut₁ | ⟨part', rfl, isCut₂⟩
    · have := isCut₁.length_lt
      omega
    · rw [List.length_append] at size
      obtain rfl := holds.bitsOf_bytes short (by omega)
      rcases (isCutOf_bitsOf_iff.mp isCut₂).of_append with isLength | ⟨bytes, h, isContent⟩
      · have length := isLength.length_lt
        exact ⟨before.toArray, inflateStored_of_length_lt limit length⟩
      · have length := isContent.length_lt
        have inside := fits.of_isPrefix ((List.prefix_append_right_inj before).mpr isContent.isPrefix)
        refine ⟨(before ++ bytes).toArray, ?_⟩
        rw [inflateStored_eq limit small h, List.take_of_length_le (by omega)]
        simp only [List.toArray_appendList]
        rw [inside.within_eq_next, Step.andThen, if_pos length]

/-! ### Blocks -/

private theorem isUsable_standardLiterals : isUsable standardLiterals = true := by decide +kernel

private theorem isUsable_standardDistances : isUsable standardDistances = true := by decide +kernel

/-- A block adds to the content. -/
theorem BlockBits.isPrefix {isLast : Bool} {position : Nat} {before after : List UInt8}
    {bits : List Bool} (h : BlockBits isLast position before bits after) : before <+: after := by
  cases h with
  | stored => exact List.prefix_append _ _
  | standard symbols => exact symbols.isPrefix
  | coded _ symbols => exact symbols.isPrefix

/-- Blocks add to the content. -/
theorem BlocksBits.isPrefix {position : Nat} {before after : List UInt8} {bits : List Bool}
    (h : BlocksBits position before bits after) : before <+: after := by
  induction h with
  | last block => exact block.isPrefix
  | more block _ ih => exact block.isPrefix.trans ih

/-- A block is a header of three bits, which tells its kind and whether it is the last one, and a part that
is followed to its end. -/
theorem BlockBits.exists_leads {limit : Option Nat} {isLast : Bool} {position : Nat}
    {before after : List UInt8} {bits : List Bool} (h : BlockBits isLast position before bits after)
    (fits : Fits limit after) :
    ∃ kind part, kind < 4 ∧ bits = numberBits 3 (isLast.toNat + 2 * kind) ++ part ∧
      Leads (fun _ => inflateBlock limit kind) (position + 3) before part after := by
  cases h with
  | stored short aligned small =>
    refine ⟨0, _, by decide, ?_, leads_inflateStored short aligned small fits⟩
    cases isLast <;> rfl
  | standard symbols =>
    refine ⟨1, _, by decide, ?_,
      leads_inflateCoded isUsable_standardLiterals isUsable_standardDistances symbols fits _⟩
    cases isLast <;> rfl
  | @coded literals distances codes bits _ brings symbols =>
    have usable : isUsable literals = true ∧ isUsable distances = true := by
      cases brings with
      | codes _ _ _ _ _ _ _ _ _ _ hl hd => exact ⟨hl, hd⟩
    have coded := leads_inflateCoded usable.1 usable.2 symbols fits (position + 3 + codes.length)
    refine ⟨2, codes ++ bits, by decide, ?_, (reads_readCodes brings).leads coded (Nat.zero_le 1)
      (Nat.zero_le _) (fun fuel s h => ?_) fun fuel s s' h => ?_⟩
    · cases isLast <;> rfl
    · rw [inflateBlock, h]
    · rw [inflateBlock, h]

/-- The blocks of a stream up to the last one, without the checksum after it. -/
def inflateToLast (limit : Option Nat) : Nat → Inflating → Step
  | 0, state => fail state.content
  | fuel + 1, state =>
    match state.stream.number? 3 with
    | none => fail state.content
    | some (header, s) =>
      (inflateBlock limit (header / 2) ⟨s, state.content⟩).andThen fun state =>
        if header % 2 = 1 then .next state else inflateToLast limit fuel state

/-- Blocks are read up to the last one and then finished. -/
theorem inflateBlocks_eq (limit : Option Nat) (fuel : Nat) (state : Inflating) :
    inflateBlocks limit fuel state =
      match inflateToLast limit fuel state with
      | .next state => finish state
      | .done result => result := by
  induction fuel generalizing state with
  | zero => rfl
  | succ fuel ih =>
    rw [inflateBlocks, inflateToLast]
    cases state.stream.number? 3 with
    | none => rfl
    | some p =>
      dsimp only
      cases inflateBlock limit (p.1 / 2) ⟨p.2, state.content⟩ with
      | done result => rfl
      | next state =>
        dsimp only [Step.andThen]
        split
        · rfl
        · exact ih state

/-- After a block, what is gone on with depends on whether it is the last one. -/
private theorem leads_block {limit : Option Nat} {isLast : Bool} {position : Nat}
    {before middle after : List UInt8} {bits rest : List Bool} {step : Nat → Inflating → Step}
    (block : BlockBits isLast position before bits middle) (fits : Fits limit middle)
    (goOn : Leads step (position + bits.length) middle rest after)
    (eq : ∀ fuel state, step fuel state =
      if isLast.toNat = 1 then .next state else inflateToLast limit fuel state) :
    Leads (inflateToLast limit) position before (bits ++ rest) after := by
  obtain ⟨kind, part, small, rfl, leads⟩ := block.exists_leads fits
  have header_lt : isLast.toNat + 2 * kind < 2 ^ 3 := by
    have := isLast.toNat_le
    omega
  have half : (isLast.toNat + 2 * kind) / 2 = kind := by
    have := isLast.toNat_lt
    omega
  have odd : (isLast.toNat + 2 * kind) % 2 = isLast.toNat := by
    have := isLast.toNat_lt
    omega
  rw [List.length_append, length_numberBits, ← Nat.add_assoc] at goOn
  rw [List.append_assoc]
  refine (Reads.number? header_lt).leads (leads.andThen goOn) (Nat.le_refl 1) (by simp)
    (fun fuel s h => ?_) fun fuel s s' h => ?_
  · rw [inflateToLast, h]
  · rw [inflateToLast, h]
    simp only [half, odd, ← eq]

/-- Blocks are followed up to the end of the last one. -/
theorem leads_inflateToLast {limit : Option Nat} {position : Nat} {before after : List UInt8}
    {bits : List Bool} (h : BlocksBits position before bits after)
    (fits : Fits limit after) :
    Leads (inflateToLast limit) position before bits after := by
  induction h with
  | @last position before after bits block =>
    rw [← List.append_nil bits]
    exact leads_block block fits (.next _ after) fun _ _ => rfl
  | more block blocks ih =>
    exact leads_block block (fits.of_isPrefix blocks.isPrefix) (ih fits) fun _ _ => rfl

/-! ### Streams -/

private theorem inflate_header {flg : UInt8} (header : isHeader 0x78 flg = true)
    (plain : needsDictionary flg = false) (limit : Option Nat) (bytes : List UInt8) :
    inflate limit (0x78 :: flg :: bytes) =
      match inflateToLast limit (8 * bytes.length + 1) ⟨⟨[], bytes⟩, [].toArray⟩ with
      | .next state => finish state
      | .done result => result := by
  rw [inflate, header, plain, inflateBlocks_eq]
  rfl

/-- Where the checksum of the content follows, the content is complete. -/
private theorem finish_of_checksum {s : BitStream} {content rest : List UInt8}
    (h : s.bytes = (Checksum.ofBytes content).toBytes ++ rest) :
    finish ⟨s, content.toArray⟩ = ⟨content.toArray, .complete⟩ := by
  have first : ((Checksum.ofBytes content).toBytes ++ rest).take 4 = (Checksum.ofBytes content).toBytes :=
    List.take_left' rfl
  simp only [finish, h, first, if_true]

/-- Where there are less bytes than a checksum has, the content is not complete. -/
private theorem finish_of_length_lt {s : BitStream} (content : Array UInt8) (h : s.bytes.length < 4) :
    finish ⟨s, content⟩ = ⟨content, .failed⟩ := by
  have differ : s.bytes.take 4 ≠ (Checksum.ofBytes content.toList).toBytes := by
    intro eq
    have := congrArg List.length eq
    simp only [List.length_take, Checksum.toBytes, List.length_cons, List.length_nil] at this
    omega
  simp only [finish]
  rw [if_neg differ]

/-- A stream that is whole restores its content, whatever follows. -/
theorem inflate_append {limit : Option Nat} {content stream : List UInt8} (h : IsStreamOf content stream)
    (fits : Fits limit content) (rest : List UInt8) :
    inflate limit (stream ++ rest) = ⟨content.toArray, .complete⟩ := by
  obtain @⟨flg, body, bits, padding, header, plain, blocks, short, body_eq⟩ := h
  have holds := BitStream.holds_bytes (body ++ ((Checksum.ofBytes content).toBytes ++ rest))
  rw [bitsOf_append, body_eq, List.append_assoc] at holds
  obtain ⟨s, reached, left⟩ := (leads_inflateToLast blocks fits).whole
    (show BitStream.size ⟨[], _⟩ < 8 * (body ++ ((Checksum.ofBytes content).toBytes ++ rest)).length + 1 by
      simp [BitStream.size])
    (by simp [BitStream.size]) holds
  have bytes := bitsOf_inj (left.bitsOf_bytes short (by simp))
  rw [List.cons_append, List.cons_append, List.append_assoc, inflate_header header plain, reached]
  exact finish_of_checksum bytes

/-- A stream that is cut off fails. -/
theorem inflate_of_isCutOf {limit : Option Nat} {content stream part : List UInt8}
    (h : IsStreamOf content stream) (fits : Fits limit content)
    (isCut : IsCutOf part stream) : (inflate limit part).ending = .failed := by
  obtain @⟨flg, body, bits, padding, header, plain, blocks, short, body_eq⟩ := h
  match part with
  | [] => rfl
  | [_] => rfl
  | cmf :: flg' :: bytes =>
    obtain ⟨a, rest, eq⟩ := isCut
    obtain ⟨rfl, eq₁⟩ := List.cons.inj eq
    obtain ⟨rfl, eq₂⟩ := List.cons.inj eq₁
    have bytesCut : IsCutOf bytes (body ++ (Checksum.ofBytes content).toBytes) := ⟨a, rest, eq₂⟩
    have bitsCut := isCutOf_bitsOf_iff.mpr bytesCut
    rw [bitsOf_append, body_eq, List.append_assoc] at bitsCut
    have holds := BitStream.holds_bytes bytes
    have enough : BitStream.size ⟨[], bytes⟩ < 8 * bytes.length + 1 := by simp [BitStream.size]
    have aligned : (0 + BitStream.size ⟨[], bytes⟩) % 8 = 0 := by simp [BitStream.size]
    have leads := leads_inflateToLast blocks fits
    rw [inflate_header header plain]
    rcases bitsCut.of_append with isCut₁ | ⟨left, left_eq, isCut₂⟩
    · obtain ⟨restored, failed⟩ := leads.cut enough aligned holds isCut₁
      rw [failed]
      rfl
    · rw [left_eq] at holds
      obtain ⟨s, reached, holds'⟩ := leads.whole enough aligned holds
      rw [reached]
      have few : s.bytes.length < 4 := by
        have size := holds'.size_eq
        have total := congrArg List.length left_eq
        have whole := congrArg List.length body_eq
        have shorter := isCut₂.length_lt
        simp only [BitStream.size, List.length_append, length_bitsOf, Checksum.toBytes, List.length_cons,
          List.length_nil] at size total whole shorter
        omega
      exact congrArg Inflated.ending (finish_of_length_lt _ few)

end TextAnalysis.Blob
