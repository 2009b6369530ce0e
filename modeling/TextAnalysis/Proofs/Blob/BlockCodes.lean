import TextAnalysis.Proofs.Blob.PrefixCode

/-!
# Laws of the codes of blocks

The parts of a block of symbols are read from the bits in which they are written: the numbers that are
added to a symbol, the lengths of codes, and the codes that come with a block.
-/

namespace TextAnalysis.Blob

open PrefixCode

/-- What the bits after a symbol add to its least value is read from them. -/
theorem reads_extended? {symbols : List (Nat × Nat)} {symbol least extra n : Nat}
    (h : symbols[symbol]? = some (least, extra)) (small : n < 2 ^ extra) :
    Reads (extended? symbols symbol) (numberBits extra n) (least + n) := by
  have eq : extended? symbols symbol = fun s => (s.number? extra).map fun p => (least + p.1, p.2) := by
    funext s
    rw [extended?, h]
  rw [eq]
  exact (Reads.number? small).map (least + ·)

private theorem reads_readTriples {triples : List Nat} (small : ∀ n ∈ triples, n < 8) :
    Reads (readTriples triples.length) (triples.flatMap (numberBits 3)) triples := by
  induction triples with
  | nil => exact .pure []
  | cons n triples ih =>
    obtain ⟨hn, small⟩ := List.forall_mem_cons.mp small
    rw [List.flatMap_cons]
    refine (Reads.number? hn).andThen ((ih small).map (n :: ·)) (fun s h => ?_) fun s s' h => ?_
    · rw [List.length_cons, readTriples, h]
    · rw [List.length_cons, readTriples, h]

/-! ### Code lengths -/

/-- The lengths that have been read are the first of all. -/
theorem LengthBits.isPrefix {codes read all : List Nat} {bits : List Bool}
    (h : LengthBits codes read bits all) : read <+: all := by
  induction h with
  | done => exact List.prefix_refl _
  | length _ _ _ ih => exact (List.prefix_append _ _).trans ih
  | again _ _ _ _ ih => exact (List.prefix_append _ _).trans ih
  | zeros _ _ _ ih => exact (List.prefix_append _ _).trans ih
  | manyZeros _ _ _ ih => exact (List.prefix_append _ _).trans ih

/-- One symbol brings at least one length, so that as much fuel as there are lengths to come suffices. -/
private theorem reads_readLengths_step {codes read run all : List Nat} {code bits : List Bool} {fuel : Nat}
    (first : Reads (readLengthRun (ofLengths codes) read.getLast?) code run) (some_run : run ≠ [])
    (more : LengthBits codes (read ++ run) bits all)
    (ih : ∀ {fuel}, all.length ≤ (read ++ run).length + fuel →
      Reads (readLengths (ofLengths codes) all.length fuel (read ++ run).reverse) bits all)
    (enough : all.length ≤ read.length + fuel) :
    Reads (readLengths (ofLengths codes) all.length fuel read.reverse) (code ++ bits) all := by
  have fits := more.isPrefix.length_le
  have longer := List.length_pos_iff.mpr some_run
  rw [List.length_append] at fits
  cases fuel with
  | zero => omega
  | succ fuel =>
    have rest := ih (show all.length ≤ (read ++ run).length + fuel by rw [List.length_append]; omega)
    refine first.andThen rest (fun s h => ?_) fun s s' h => ?_
    all_goals
      rw [readLengths, List.length_reverse, if_neg (by omega), if_neg (by omega), List.head?_reverse, h]
    simp only [List.reverse_append]

section

variable {codes : List Nat} (usable : isUsable codes = true)

include usable

private theorem reads_readLengthRun_length {n : Nat} (small : n < 16) {code : List Bool}
    (isCode : IsCode codes n code) (last : Option Nat) :
    Reads (readLengthRun (ofLengths codes) last) code [n] := by
  rw [← List.append_nil code]
  refine (reads_decode usable isCode).andThen (.pure [n]) (fun s h => ?_) fun s s' h => ?_
  · rw [readLengthRun, h]
  · rw [readLengthRun, h]
    exact if_pos small

private theorem reads_readLengthRun_again {n k : Nat} (small : k < 4) {code : List Bool}
    (isCode : IsCode codes 16 code) :
    Reads (readLengthRun (ofLengths codes) (some n)) (code ++ numberBits 2 k)
      (List.replicate (3 + k) n) := by
  have count := (Reads.number? (show k < 2 ^ 2 from small)).map fun k => List.replicate (3 + k) n
  refine (reads_decode usable isCode).andThen count (fun s h => ?_) fun s s' h => ?_
  · rw [readLengthRun, h]
  · rw [readLengthRun, h]
    rfl

/-- Zeros are written as a symbol that tells the least number of them and how many bits are added. -/
private theorem reads_readLengthRun_zeros {symbol width least k : Nat}
    (kind : (symbol = 17 ∧ width = 3 ∧ least = 3) ∨ (symbol = 18 ∧ width = 7 ∧ least = 11))
    (small : k < 2 ^ width) {code : List Bool} (isCode : IsCode codes symbol code) (last : Option Nat) :
    Reads (readLengthRun (ofLengths codes) last) (code ++ numberBits width k)
      (List.replicate (least + k) 0) := by
  have count := (Reads.number? small).map fun k => List.replicate (least + k) 0
  refine (reads_decode usable isCode).andThen count (fun s h => ?_) fun s s' h => ?_
  · rw [readLengthRun, h]
  · rw [readLengthRun, h]
    rcases kind with ⟨rfl, rfl, rfl⟩ | ⟨rfl, rfl, rfl⟩ <;> rfl

/-- Code lengths are read from the bits that stand for them, up to the last one. -/
private theorem reads_readLengths {read all : List Nat} {bits : List Bool}
    (h : LengthBits codes read bits all) {fuel : Nat} (enough : all.length ≤ read.length + fuel) :
    Reads (readLengths (ofLengths codes) all.length fuel read.reverse) bits all := by
  induction h generalizing fuel with
  | done all =>
    have eq : readLengths (ofLengths codes) all.length fuel all.reverse = fun s => some (all, s) := by
      funext s
      cases fuel <;> rw [readLengths, List.length_reverse, if_pos rfl, List.reverse_reverse]
    rw [eq]
    exact .pure all
  | length small isCode more ih =>
    exact reads_readLengths_step (reads_readLengthRun_length usable small isCode _) (by simp) more ih
      enough
  | again before small isCode more ih =>
    rw [← List.append_assoc]
    refine reads_readLengths_step ?_ (by simp) more ih enough
    rw [before]
    exact reads_readLengthRun_again usable small isCode
  | zeros small isCode more ih =>
    rw [← List.append_assoc]
    exact reads_readLengths_step (reads_readLengthRun_zeros usable (.inl ⟨rfl, rfl, rfl⟩) small isCode _)
      (by simp) more ih enough
  | manyZeros small isCode more ih =>
    rw [← List.append_assoc]
    exact reads_readLengths_step (reads_readLengthRun_zeros usable (.inr ⟨rfl, rfl, rfl⟩) small isCode _)
      (by simp) more ih enough

end

/-! ### Codes -/

/-- The codes that come with a block are read from the bits that bring them. -/
theorem reads_readCodes {literals distances : List Nat} {bits : List Bool}
    (h : CodesBits literals distances bits) :
    Reads readCodes bits ⟨ofLengths literals, ofLengths distances⟩ := by
  obtain @⟨triples, bits, literals_ge, literals_le, distances_ge, distances_le, triples_ge, triples_le,
    triples_lt, complete, lengths, ends, literals_usable, distances_usable⟩ := h
  have usable : isUsable (metaLengths triples) = true := by
    rw [isUsable, complete, Bool.true_or]
  have all := reads_readLengths usable lengths (Nat.le_add_left _ _)
  have literals_eq : literals.length - 257 + 257 = literals.length := by omega
  have distances_eq : distances.length - 1 + 1 = distances.length := by omega
  have triples_eq : triples.length - 4 + 4 = triples.length := by omega
  have sizes : ¬ (286 < literals.length ∨ 30 < distances.length) := by omega
  have unfolded : isComplete ((List.range 19).map fun i =>
    ((lengthOrder.zip triples).lookup i).getD 0) = true := complete
  rw [List.length_append] at all
  refine (Reads.number? (by omega)).bind ?_
  refine (Reads.number? (by omega)).bind ?_
  refine (Reads.number? (by omega)).bind ?_
  simp only [literals_eq, distances_eq, triples_eq, sizes, if_false]
  refine (reads_readTriples triples_lt).bind ?_
  simp only [unfolded, Bool.not_true, Bool.false_eq_true, if_false]
  rw [← List.append_nil bits]
  refine all.bind ?_
  simp only [List.take_left, List.drop_left, ends, literals_usable, distances_usable, Bool.not_true,
    Bool.false_eq_true, or_self, if_false]
  exact .pure _

/-! ### What is taken for codes -/

/-- What is added to the least value of a symbol is a number. -/
theorem takes_extended? (symbols : List (Nat × Nat)) (symbol : Nat) :
    Takes (extended? symbols symbol) fun value taken =>
      ∃ least extra n, symbols[symbol]? = some (least, extra) ∧ n < 2 ^ extra ∧ value = least + n ∧
        taken = numberBits extra n := by
  cases listed : symbols[symbol]? with
  | none =>
    intro s s' bits value holds found
    rw [extended?, listed] at found
    cases found
  | some p =>
    obtain ⟨least, extra⟩ := p
    have eq : extended? symbols symbol = fun s => (s.number? extra).map fun p => (least + p.1, p.2) := by
      funext s
      rw [extended?, listed]
    rw [eq]
    exact (Takes.number? extra).map (least + ·) fun n taken h => ⟨least, extra, n, rfl, h.1, rfl, h.2⟩

private theorem takes_readTriples (n : Nat) :
    Takes (readTriples n) fun triples taken =>
      triples.length = n ∧ (∀ t ∈ triples, t < 8) ∧ taken = triples.flatMap (numberBits 3) := by
  induction n with
  | zero => exact .pure ⟨rfl, by simp, rfl⟩
  | succ n ih =>
    refine (Takes.number? 3).andThen (fun t s => (readTriples n s).map fun p => (t :: p.1, p.2))
      (fun t taken first => ih.map (t :: ·) fun triples more h => ?_) fun s => ?_
    · obtain ⟨rfl, small, rfl⟩ := h
      exact ⟨rfl, List.forall_mem_cons.mpr ⟨first.1, small⟩, by rw [first.2, List.flatMap_cons]⟩
    · rw [readTriples]
      cases s.number? 3 <;> rfl

private theorem takes_repetition (width least n : Nat) :
    Takes (fun s => (s.number? width).map fun p => (List.replicate (least + p.1) n, p.2)) fun run taken =>
      ∃ k < 2 ^ width, run = List.replicate (least + k) n ∧ taken = numberBits width k :=
  (Takes.number? width).map (fun k => List.replicate (least + k) n) fun k _ h => ⟨k, h.1, rfl, h.2⟩

section

variable {codes : List Nat} (few : codes.length ≤ 19)

include few

/-- The bits that are taken for a symbol stand before those of further lengths. -/
private theorem takes_readLengthRun (read : List Nat) :
    Takes (readLengthRun (ofLengths codes) read.getLast?) fun run taken =>
      ∀ more all, LengthBits codes (read ++ run) more all → LengthBits codes read (taken ++ more) all := by
  refine (takes_decode codes).andThen (fun symbol s =>
      if symbol < 16 then some ([symbol], s)
      else if symbol = 16 then
        read.getLast?.bind fun n => (s.number? 2).map fun p => (List.replicate (3 + p.1) n, p.2)
      else if symbol = 17 then (s.number? 3).map fun p => (List.replicate (3 + p.1) 0, p.2)
      else (s.number? 7).map fun p => (List.replicate (11 + p.1) 0, p.2))
    (fun symbol code isCode => ?_) fun s => ?_
  · by_cases small : symbol < 16
    · simp only [small, if_true]
      refine .pure fun more all h => ?_
      rw [List.append_nil]
      exact .length small isCode h
    · by_cases again : symbol = 16
      · subst again
        cases before : read.getLast? with
        | none =>
          intro s s' bits run holds found
          cases found
        | some n =>
          refine (takes_repetition 2 3 n).mono ?_
          rintro _ _ ⟨k, small, rfl, rfl⟩ more all h
          rw [List.append_assoc]
          exact .again before small isCode h
      · by_cases zeros : symbol = 17
        · subst zeros
          refine (takes_repetition 3 3 0).mono ?_
          rintro _ _ ⟨k, small, rfl, rfl⟩ more all h
          rw [List.append_assoc]
          exact .zeros small isCode h
        · have last : symbol = 18 := by
            obtain ⟨n, has, -⟩ := isCode
            have := (List.getElem?_eq_some_iff.mp has).1
            omega
          subst last
          refine (takes_repetition 7 11 0).mono ?_
          rintro _ _ ⟨k, small, rfl, rfl⟩ more all h
          rw [List.append_assoc]
          exact .manyZeros small isCode h
  · rw [readLengthRun]
    cases (ofLengths codes).decode s with
    | none => rfl
    | some p => cases read.getLast? <;> rfl

private theorem takes_readLengths (total fuel : Nat) (read : List Nat) :
    Takes (readLengths (ofLengths codes) total fuel read.reverse) fun all taken =>
      all.length = total ∧ LengthBits codes read taken all := by
  by_cases enough : read.length = total
  · have eq : readLengths (ofLengths codes) total fuel read.reverse = fun s => some (read, s) := by
      funext s
      cases fuel <;> rw [readLengths, List.length_reverse, if_pos enough, List.reverse_reverse]
    rw [eq]
    exact .pure ⟨enough, .done read⟩
  · cases fuel with
    | zero =>
      intro s s' bits all holds found
      rw [readLengths, List.length_reverse, if_neg enough] at found
      cases found
    | succ fuel =>
      by_cases much : total < read.length
      · intro s s' bits all holds found
        rw [readLengths, List.length_reverse, if_neg enough, if_pos much] at found
        cases found
      · refine (takes_readLengthRun few read).andThen
          (fun run => readLengths (ofLengths codes) total fuel (read ++ run).reverse)
          (fun run taken symbol => ?_) fun s => ?_
        · exact (takes_readLengths total fuel (read ++ run)).mono fun all more h => ⟨h.1, symbol more all h.2⟩
        · rw [readLengths, List.length_reverse, if_neg enough, if_neg much, List.head?_reverse]
          simp only [List.reverse_append]
          cases readLengthRun (ofLengths codes) read.getLast? s <;> rfl

end

/-- The bits that are taken for the codes of a block bring them. -/
theorem takes_readCodes :
    Takes readCodes fun codes taken =>
      ∃ literals distances, codes = ⟨ofLengths literals, ofLengths distances⟩ ∧
        CodesBits literals distances taken := by
  intro s s' bits codes holds found
  rw [readCodes] at found
  obtain ⟨⟨l, s₁⟩, found₁, found⟩ := Option.bind_eq_some_iff.mp found
  obtain ⟨_, bits, rfl, holds₁, l_lt, rfl⟩ := Takes.number? 5 holds found₁
  obtain ⟨⟨d, s₂⟩, found₂, found⟩ := Option.bind_eq_some_iff.mp found
  obtain ⟨_, bits, rfl, holds₂, d_lt, rfl⟩ := Takes.number? 5 holds₁ found₂
  obtain ⟨⟨t, s₃⟩, found₃, found⟩ := Option.bind_eq_some_iff.mp found
  obtain ⟨_, bits, rfl, holds₃, t_lt, rfl⟩ := Takes.number? 4 holds₂ found₃
  dsimp only at found
  split at found
  · cases found
  next sizes =>
  obtain ⟨⟨triples, s₄⟩, found₄, found⟩ := Option.bind_eq_some_iff.mp found
  obtain ⟨_, bits, rfl, holds₄, triples_length, triples_lt, rfl⟩ := takes_readTriples (t + 4) holds₃ found₄
  dsimp only at found
  split at found
  · cases found
  next complete =>
  have few : (metaLengths triples).length ≤ 19 := by simp [metaLengths]
  obtain ⟨⟨all, s₅⟩, found₅, found⟩ := Option.bind_eq_some_iff.mp found
  obtain ⟨lengths, bits, rfl, holds₅, all_length, all_read⟩ :=
    takes_readLengths few (l + 257 + (d + 1)) (l + 257 + (d + 1)) [] holds₄ found₅
  dsimp only at found
  split at found
  · cases found
  next ends =>
  split at found
  · cases found
  next usable =>
  obtain ⟨rfl, rfl⟩ := Prod.mk.inj (Option.some.inj found)
  obtain ⟨literals, distances, rfl, literals_length⟩ :
      ∃ literals distances, all = literals ++ distances ∧ literals.length = l + 257 :=
    ⟨all.take (l + 257), all.drop (l + 257), (List.take_append_drop ..).symm, by simp; omega⟩
  rw [List.length_append] at all_length
  rw [List.take_left' literals_length] at ends usable
  rw [List.drop_left' literals_length] at usable
  simp only [Bool.not_eq_true', not_or, Bool.not_eq_false] at usable complete
  have codes := CodesBits.codes (by omega) (by omega) (by omega) (by omega) (by omega) (by omega) triples_lt
    complete all_read ends usable.1 usable.2
  have literals_eq : literals.length - 257 = l := by omega
  have distances_eq : distances.length - 1 = d := by omega
  have triples_eq : triples.length - 4 = t := by omega
  rw [literals_eq, distances_eq, triples_eq] at codes
  refine ⟨_, bits, ?_, holds₅, literals, distances, ?_, codes⟩
  · simp only [List.append_assoc]
  · rw [List.take_left' literals_length, List.drop_left' literals_length]

end TextAnalysis.Blob
