import TextAnalysis.Proofs.Blob.Inflate

/-!
# Laws of limited inflation

Inflation under a limit is followed beside inflation without one. The two do the same as long as the content
is not beyond the limit. Content is never taken back, so as soon as it is beyond the limit, all that is
restored without one is beyond it too. A limit therefore decides nothing but whether there is more content
than it allows.
-/

namespace TextAnalysis.Blob

/-- The content that a step leads to. -/
def Step.content : Step → Array UInt8
  | .next state => state.content
  | .done result => result.content

/-- What a step leads to under the limit `n`, beside what it leads to without one: the same, unless the
content is beyond the limit, where it ends. -/
inductive Capped (n : Nat) : Step → Step → Prop where
  | same {step : Step} (fits : step.content.size ≤ n) : Capped n step step
  | beyond (content : Array UInt8) {free : Step} (exceeds : n < free.content.size) :
      Capped n (.done ⟨content, .beyondLimit⟩) free

/-- A step from some content, under the limit `n` and without one. Without one it takes nothing off the
content and is not ended by a limit; under one it leads to the same, or ends where the content is beyond
it. -/
structure Follows (n : Nat) (content : Array UInt8) (limited free : Step) : Prop where
  grows : content.size ≤ free.content.size
  unlimited : ∀ restored, free ≠ .done ⟨restored, .beyondLimit⟩
  capped : content.size ≤ n → Capped n limited free

namespace Follows

variable {n : Nat} {content : Array UInt8}

/-- At a fault both end. -/
theorem fail (n : Nat) (content : Array UInt8) : Follows n content (fail content) (fail content) where
  grows := Nat.le_refl _
  unlimited _ h := nomatch h
  capped fits := .same fits

/-- Where nothing is added both go on alike. -/
theorem next (n : Nat) (state : Inflating) : Follows n state.content (.next state) (.next state) where
  grows := Nat.le_refl _
  unlimited _ h := nomatch h
  capped fits := .same fits

/-- This is where a limit comes in. -/
theorem within {state : Inflating} (grows : content.size ≤ state.content.size) :
    Follows n content (within (some n) state) (within none state) where
  grows := grows
  unlimited _ h := nomatch h
  capped _ := by
    rw [Blob.within]
    split
    · next exceeds => exact .beyond _ exceeds
    · next fits => exact .same (Nat.not_lt.mp fits)

/-- From a step one goes on to the next one. -/
theorem andThen {limited free : Step} {goOn goOnFree : Inflating → Step}
    (first : Follows n content limited free)
    (second : ∀ state, free = .next state → Follows n state.content (goOn state) (goOnFree state)) :
    Follows n content (limited.andThen goOn) (free.andThen goOnFree) := by
  cases free with
  | done result =>
    refine ⟨first.grows, first.unlimited, fun small => ?_⟩
    cases first.capped small with
    | same fits => exact .same fits
    | beyond restored exceeds => exact .beyond restored exceeds
  | next state =>
    have goesOn := second state rfl
    refine ⟨Nat.le_trans first.grows goesOn.grows, goesOn.unlimited, fun small => ?_⟩
    cases first.capped small with
    | same fits => exact goesOn.capped fits
    | beyond restored exceeds => exact .beyond restored (Nat.lt_of_lt_of_le exceeds goesOn.grows)

end Follows

/-- A copy adds as many bytes as it is long. -/
theorem size_repeatBytes (distance length : Nat) (content : Array UInt8) :
    (repeatBytes distance length content).size = content.size + length := by
  induction length generalizing content with
  | zero => rfl
  | succ length ih =>
    rw [repeatBytes, ih, Array.size_push]
    omega

variable (n : Nat) (codes : BlockCodes)

private theorem follows_stepMatch (symbol : Nat) (state : Inflating) :
    Follows n state.content (stepMatch (some n) codes symbol state)
      (stepMatch none codes symbol state) := by
  unfold stepMatch
  cases extended? lengthSymbols (symbol - (endOfBlock + 1)) state.stream with
  | none => exact .fail n _
  | some length =>
    dsimp only
    cases codes.distances.decode length.2 with
    | none => exact .fail n _
    | some decoded =>
      dsimp only
      cases extended? distanceSymbols decoded.1 decoded.2 with
      | none => exact .fail n _
      | some distance =>
        dsimp only
        split
        · exact .fail n _
        · exact .within (by rw [size_repeatBytes]; exact Nat.le_add_right _ _)

private theorem follows_inflateSymbols (fuel : Nat) (state : Inflating) :
    Follows n state.content (inflateSymbols (some n) codes fuel state)
      (inflateSymbols none codes fuel state) := by
  induction fuel generalizing state with
  | zero => exact .fail n _
  | succ fuel ih =>
    rw [inflateSymbols_succ, inflateSymbols_succ]
    cases codes.literals.decode state.stream with
    | none => exact .fail n _
    | some decoded =>
      dsimp only
      by_cases ends : decoded.1 = endOfBlock
      · rw [if_pos ends, if_pos ends]
        exact .next n ⟨decoded.2, state.content⟩
      · rw [if_neg ends, if_neg ends]
        refine Follows.andThen ?_ fun state _ => ih state
        by_cases byte : decoded.1 < endOfBlock
        · rw [if_pos byte, if_pos byte]
          exact .within (by rw [Array.size_push]; exact Nat.le_succ _)
        · rw [if_neg byte, if_neg byte]
          exact follows_stepMatch n codes decoded.1 ⟨decoded.2, state.content⟩

/-- The content of a block in which it stands as it is may be cut off. -/
private theorem follows_taken (length : Nat) (bytes : List UInt8) (content : Array UInt8) :
    let step (limit : Option Nat) : Step :=
      (within limit ⟨⟨[], bytes.drop length⟩, content ++ bytes.take length⟩).andThen fun state =>
        if bytes.length < length then fail (content ++ bytes.take length) else .next state
    Follows n content (step (some n)) (step none) := by
  refine Follows.andThen (.within ?_) fun state reached => ?_
  · rw [← Array.length_toList, ← Array.length_toList, Array.toList_appendList, List.length_append]
    exact Nat.le_add_right _ _
  · obtain rfl := Step.next.inj reached
    split
    · exact .fail n _
    · exact .next n _

private theorem follows_inflateStored (state : Inflating) :
    Follows n state.content (inflateStored (some n) state) (inflateStored none state) := by
  unfold inflateStored
  split
  · split
    · exact follows_taken n _ _ _
    · exact .fail n _
  · exact .fail n _

private theorem follows_inflateBlock (kind : Nat) (state : Inflating) :
    Follows n state.content (inflateBlock (some n) kind state) (inflateBlock none kind state) := by
  unfold inflateBlock
  split
  · exact follows_inflateStored n state
  · exact follows_inflateSymbols n standardCodes _ state
  · split
    · exact .fail n _
    · next codes s _ => exact follows_inflateSymbols n codes _ ⟨s, state.content⟩
  · exact .fail n _

private theorem follows_inflateToLast (fuel : Nat) (state : Inflating) :
    Follows n state.content (inflateToLast (some n) fuel state) (inflateToLast none fuel state) := by
  induction fuel generalizing state with
  | zero => exact .fail n _
  | succ fuel ih =>
    rw [inflateToLast, inflateToLast]
    cases state.stream.number? 3 with
    | none => exact .fail n _
    | some header =>
      refine Follows.andThen (follows_inflateBlock n _ ⟨header.2, state.content⟩) fun state _ => ?_
      split
      · exact .next n _
      · exact ih state

/-! ### Streams -/

variable {n}

/-- What is restored when blocks have led to a step. -/
def Step.finished : Step → Inflated
  | .next state => finish state
  | .done result => result

private theorem Step.content_finished (step : Step) : step.finished.content = step.content := by
  cases step <;> rfl

/-- A stream whose last block ends without a limit is complete or fails. -/
private theorem Follows.ending_finished {content : Array UInt8} {limited free : Step}
    (h : Follows n content limited free) :
    free.finished.ending = .complete ∨ free.finished.ending = .failed := by
  cases free with
  | next state =>
    rw [Step.finished, finish]
    split
    · exact .inl rfl
    · exact .inr rfl
  | done result =>
    obtain ⟨restored, ending⟩ := result
    cases ending with
    | complete => exact .inl rfl
    | failed => exact .inr rfl
    | beyondLimit => exact absurd rfl (h.unlimited restored)

/-- A limit ends a stream whose content is beyond it, and changes no other. -/
private theorem Follows.finished {content : Array UInt8} {limited free : Step}
    (h : Follows n content limited free) (small : content.size ≤ n) :
    (free.finished.content.size ≤ n → limited.finished = free.finished) ∧
      (n < free.finished.content.size → limited.finished.ending = .beyondLimit) := by
  rw [Step.content_finished]
  cases h.capped small with
  | same fits => exact ⟨fun _ => rfl, fun exceeds => absurd fits (Nat.not_le.mpr exceeds)⟩
  | beyond restored exceeds => exact ⟨fun fits => absurd fits (Nat.not_le.mpr exceeds), fun _ => rfl⟩

/-- Without a limit a stream ends at its end or at a fault. Under a limit the same is restored and it ends
alike, if what is restored is within the limit; if not, the limit ends it. -/
theorem inflate_some (n : Nat) (stream : List UInt8) :
    ((inflate none stream).ending = .complete ∨ (inflate none stream).ending = .failed) ∧
      ((inflate none stream).content.size ≤ n → inflate (some n) stream = inflate none stream) ∧
      (n < (inflate none stream).content.size → (inflate (some n) stream).ending = .beyondLimit) := by
  unfold inflate
  split
  · next cmf flg bytes =>
    split
    · have eq (limit : Option Nat) : inflateBlocks limit (8 * bytes.length + 1) ⟨⟨[], bytes⟩, #[]⟩ =
          (inflateToLast limit (8 * bytes.length + 1) ⟨⟨[], bytes⟩, #[]⟩).finished :=
        inflateBlocks_eq limit _ _
      have follows := follows_inflateToLast n (8 * bytes.length + 1) ⟨⟨[], bytes⟩, #[]⟩
      rw [eq, eq]
      exact ⟨follows.ending_finished, follows.finished (Nat.zero_le n)⟩
    · exact ⟨.inr rfl, fun _ => rfl, fun exceeds => absurd exceeds (Nat.not_lt_zero n)⟩
  · exact ⟨.inr rfl, fun _ => rfl, fun exceeds => absurd exceeds (Nat.not_lt_zero n)⟩

end TextAnalysis.Blob
