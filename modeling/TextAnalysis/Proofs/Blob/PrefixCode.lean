import TextAnalysis.Proofs.Blob.Bits

/-!
# Laws of prefix codes

Where the lengths leave room for all codes, a symbol is read from its code, bit by bit.
-/

namespace TextAnalysis.Blob.PrefixCode

/-! ### Symbols of one length -/

/-- The symbols from `start` on whose codes have `n` bits. -/
def symbolsFrom (n start : Nat) (lengths : List Nat) : List Nat :=
  ((lengths.zipIdx start).filter fun p => p.1 = n).map Prod.snd

private theorem symbolsFrom_cons_of_eq (n start : Nat) (lengths : List Nat) :
    symbolsFrom n start (n :: lengths) = start :: symbolsFrom n (start + 1) lengths := by
  simp [symbolsFrom]

private theorem symbolsFrom_cons_of_ne {n length : Nat} (h : length ≠ n) (start : Nat)
    (lengths : List Nat) :
    symbolsFrom n start (length :: lengths) = symbolsFrom n (start + 1) lengths := by
  simp [symbolsFrom, h]

private theorem length_symbolsFrom (n start : Nat) (lengths : List Nat) :
    (symbolsFrom n start lengths).length = lengths.count n := by
  induction lengths generalizing start with
  | nil => rfl
  | cons length lengths ih =>
    by_cases h : length = n
    · rw [h, symbolsFrom_cons_of_eq, List.length_cons, ih, List.count_cons_self]
    · rw [symbolsFrom_cons_of_ne h, ih, List.count_cons_of_ne h]

private theorem getElem?_symbolsFrom {n i : Nat} {lengths : List Nat} (h : lengths[i]? = some n)
    (start : Nat) :
    (symbolsFrom n start lengths)[(lengths.take i).count n]? = some (start + i) := by
  induction lengths generalizing i start with
  | nil => simp at h
  | cons length lengths ih =>
    cases i with
    | zero =>
      obtain rfl : length = n := by simpa using h
      simp [symbolsFrom_cons_of_eq]
    | succ i =>
      have hi : lengths[i]? = some n := by simpa using h
      rw [List.take_succ_cons, ← Nat.add_assoc, Nat.add_right_comm]
      by_cases hn : length = n
      · rw [hn, symbolsFrom_cons_of_eq, List.count_cons_self, List.getElem?_cons_succ, ih hi]
      · rw [symbolsFrom_cons_of_ne hn, List.count_cons_of_ne hn, ih hi]

/-! ### Numbers of codes -/

/-- The number that follows the codes of at most `n` bits, counted in `n` bits. -/
def codesUpTo (lengths : List Nat) (n : Nat) : Nat :=
  firstCode lengths n + if n = 0 then 0 else lengths.count n

private theorem firstCode_succ (lengths : List Nat) (n : Nat) :
    firstCode lengths (n + 1) = 2 * codesUpTo lengths n := rfl

/-- Shorter codes take their share of the numbers before the first code. -/
private theorem codesUpTo_mul_le_firstCode (lengths : List Nat) (m k : Nat) :
    codesUpTo lengths m * 2 ^ (k + 1) ≤ firstCode lengths (m + (k + 1)) := by
  induction k with
  | zero =>
    rw [Nat.zero_add, firstCode_succ]
    omega
  | succ k ih =>
    have step : firstCode lengths (m + (k + 1)) ≤ codesUpTo lengths (m + (k + 1)) :=
      Nat.le_add_right _ _
    rw [← Nat.add_assoc, firstCode_succ, Nat.pow_succ]
    have := Nat.mul_le_mul_right 2 (Nat.le_trans ih step)
    rw [Nat.mul_assoc] at this
    omega

/-- The share of the codes of at most `n` bits, in units of `2 ^ -15`. -/
private def shareUpTo (lengths : List Nat) (n : Nat) : Nat :=
  (lengths.map fun l => if l = 0 ∨ n < l then 0 else Nat.pow 2 (greatestCodeLength - l)).foldr (· + ·) 0

private theorem shareUpTo_le_share (lengths : List Nat) (n : Nat) :
    shareUpTo lengths n ≤ share lengths := by
  induction lengths with
  | nil => exact Nat.le_refl _
  | cons l lengths ih =>
    simp only [shareUpTo, share, List.map_cons, List.foldr_cons] at ih ⊢
    split <;> split <;> omega

private theorem shareUpTo_zero (lengths : List Nat) : shareUpTo lengths 0 = 0 := by
  induction lengths with
  | nil => rfl
  | cons l lengths ih =>
    simp only [shareUpTo, List.map_cons, List.foldr_cons] at ih ⊢
    rw [ih, if_pos (by omega)]

private theorem shareUpTo_succ (lengths : List Nat) (n : Nat) :
    shareUpTo lengths (n + 1) =
      shareUpTo lengths n + lengths.count (n + 1) * 2 ^ (greatestCodeLength - (n + 1)) := by
  induction lengths with
  | nil => simp [shareUpTo]
  | cons l lengths ih =>
    simp only [shareUpTo, List.map_cons, List.foldr_cons] at ih ⊢
    by_cases hl : l = n + 1
    · subst hl
      rw [if_neg (by omega), if_pos (by omega), ih, List.count_cons_self, Nat.add_mul]
      simp only [Nat.pow_eq]
      omega
    · rw [List.count_cons_of_ne hl, ih]
      by_cases hs : l = 0 ∨ n < l
      · rw [if_pos hs, if_pos (by omega)]
        omega
      · rw [if_neg hs, if_neg (by omega)]
        omega

private theorem codesUpTo_mul (lengths : List Nat) {n : Nat} (h : n ≤ greatestCodeLength) :
    codesUpTo lengths n * 2 ^ (greatestCodeLength - n) = shareUpTo lengths n := by
  induction n with
  | zero => simp [codesUpTo, firstCode, shareUpTo_zero]
  | succ n ih =>
    have half : 2 ^ (greatestCodeLength - n) = 2 * 2 ^ (greatestCodeLength - (n + 1)) := by
      rw [← Nat.pow_succ']
      congr 1
      omega
    rw [shareUpTo_succ, ← ih (by omega), codesUpTo, firstCode_succ, if_neg (by omega), half,
      Nat.add_mul, Nat.mul_comm 2 (codesUpTo lengths n), Nat.mul_assoc]

/-- In a usable code there is room for all codes of a length. -/
theorem codesUpTo_le {lengths : List Nat} (usable : isUsable lengths = true) {n : Nat}
    (positive : n ≠ 0) (h : n ≤ greatestCodeLength) (used : n ∈ lengths) :
    codesUpTo lengths n ≤ 2 ^ n := by
  rcases Bool.or_eq_true_iff.mp usable with complete | single
  · have total : share lengths = 2 ^ greatestCodeLength := of_decide_eq_true complete
    have bound : codesUpTo lengths n * 2 ^ (greatestCodeLength - n) ≤
        2 ^ n * 2 ^ (greatestCodeLength - n) := by
      rw [codesUpTo_mul lengths h, ← Nat.pow_add, Nat.add_sub_cancel' h, ← total]
      exact shareUpTo_le_share lengths n
    exact Nat.le_of_mul_le_mul_right bound (Nat.two_pow_pos _)
  · obtain ⟨short, once⟩ := Bool.and_eq_true_iff.mp single
    have : n ≤ 1 := of_decide_eq_true (List.all_eq_true.mp short n used)
    obtain rfl : n = 1 := by omega
    have : lengths.count 1 ≤ 1 := of_decide_eq_true once
    simp [codesUpTo, firstCode]
    omega

/-! ### Reading symbols -/

private theorem groups_drop (lengths : List Nat) {m : Nat} (h : m < greatestCodeLength) :
    (ofLengths lengths).groups.drop m =
      symbolsFrom (m + 1) 0 lengths :: (ofLengths lengths).groups.drop (m + 1) := by
  have size : m < (ofLengths lengths).groups.length := by simpa [ofLengths] using h
  rw [List.drop_eq_getElem_cons size]
  simp [ofLengths, symbolsFrom]

private theorem reverse_numberBits_succ (k n : Nat) :
    (numberBits (k + 1) n).reverse = n.testBit k :: (numberBits k n).reverse := by
  induction k generalizing n with
  | zero => rfl
  | succ k ih =>
    rw [numberBits, List.reverse_cons, ih, numberBits, List.reverse_cons, Nat.testBit_succ]
    rfl

private theorem div_two_pow (n k : Nat) :
    n / 2 ^ k = 2 * (n / 2 ^ (k + 1)) + (n.testBit k).toNat := by
  rw [Nat.testBit_eq_decide_div_mod_eq, Nat.pow_succ, ← Nat.div_div_eq_div_mul]
  have := Nat.mod_two_eq_zero_or_one (n / 2 ^ k)
  rcases this with h | h <;> simp [h] <;> omega

private theorem codesUpTo_le_div (lengths : List Nat) (symbol m k : Nat) :
    codesUpTo lengths m ≤ codeNumber lengths symbol (m + (k + 1)) / 2 ^ (k + 1) := by
  rw [Nat.le_div_iff_mul_le (Nat.two_pow_pos _)]
  exact Nat.le_add_right_of_le (codesUpTo_mul_le_firstCode lengths m k)

private theorem codeNumber_lt {lengths : List Nat} (usable : isUsable lengths = true) {symbol n : Nat}
    (has : lengths[symbol]? = some n) (positive : n ≠ 0) (bound : n ≤ greatestCodeLength) :
    codeNumber lengths symbol n < 2 ^ n := by
  have room := codesUpTo_le usable positive bound (List.mem_of_getElem? has)
  have before : (lengths.take symbol).count n < lengths.count n := by
    have listed := getElem?_symbolsFrom has 0
    have := (List.getElem?_eq_some_iff.mp listed).1
    rwa [length_symbolsFrom] at this
  rw [codesUpTo, if_neg positive] at room
  rw [codeNumber]
  omega

/-- One bit more of a number takes it from the codes of at most `m` bits to those of one bit more. -/
private theorem offset_succ {lengths : List Nat} {m k v : Nat}
    (past : codesUpTo lengths m ≤ v / 2 ^ (k + 1)) :
    2 * (v / 2 ^ (k + 1) - codesUpTo lengths m) + (v.testBit k).toNat =
      v / 2 ^ k - firstCode lengths (m + 1) := by
  rw [firstCode_succ, div_two_pow v k]
  omega

/-- What is left of a code leads to its symbol. The induction is on the number of bits that are left; what
was read so far is a number of `m` bits that follows all codes of at most `m` bits. -/
private theorem reads_decodeGroups {lengths : List Nat} {symbol m k : Nat}
    (has : lengths[symbol]? = some (m + (k + 1))) (bound : m + (k + 1) ≤ greatestCodeLength) :
    Reads (decodeGroups ((ofLengths lengths).groups.drop m)
        (codeNumber lengths symbol (m + (k + 1)) / 2 ^ (k + 1) - codesUpTo lengths m))
      (numberBits (k + 1) (codeNumber lengths symbol (m + (k + 1)))).reverse symbol := by
  have past := codesUpTo_le_div lengths symbol m k
  rw [groups_drop lengths (by omega), reverse_numberBits_succ]
  induction k generalizing m with
  | zero =>
    have last : codeNumber lengths symbol (m + 1) / 2 ^ 0 - firstCode lengths (m + 1) =
        (lengths.take symbol).count (m + 1) := by
      rw [codeNumber]
      omega
    have found := getElem?_symbolsFrom has 0
    refine (Reads.bit? _).andThen (.pure symbol) (fun s h => ?_) fun s s' h => ?_
    · rw [decodeGroups, h]
    · rw [decodeGroups, h]
      simp only [offset_succ past, last, found, Nat.zero_add]
  | succ k ih =>
    have eq : m + (k + 1 + 1) = m + 1 + (k + 1) := by omega
    rw [eq] at has bound past ⊢
    have longer := codesUpTo_le_div lengths symbol (m + 1) k
    have upTo : codesUpTo lengths (m + 1) = firstCode lengths (m + 1) + lengths.count (m + 1) := by
      rw [codesUpTo, if_neg (by omega)]
    have unfound : (symbolsFrom (m + 1) 0 lengths)[codeNumber lengths symbol (m + 1 + (k + 1)) /
        2 ^ (k + 1) - firstCode lengths (m + 1)]? = none := by
      rw [List.getElem?_eq_none_iff, length_symbolsFrom]
      omega
    have rest := ih has bound longer
    rw [← reverse_numberBits_succ, ← groups_drop lengths (by omega)] at rest
    refine (Reads.bit? _).andThen rest (fun s h => ?_) fun s s' h => ?_
    · rw [decodeGroups, h]
    · rw [decodeGroups, h]
      simp only [offset_succ past, unfound, length_symbolsFrom]
      rw [Nat.sub_sub, ← upTo]

/-- A symbol is read from its code. -/
theorem reads_decode {lengths : List Nat} (usable : isUsable lengths = true) {symbol : Nat}
    {code : List Bool} (isCode : IsCode lengths symbol code) :
    Reads (ofLengths lengths).decode code symbol := by
  obtain ⟨n, has, positive, bound, rfl⟩ := isCode
  obtain ⟨k, rfl⟩ := Nat.exists_eq_succ_of_ne_zero positive
  have start : codeNumber lengths symbol (0 + (k + 1)) / 2 ^ (k + 1) = 0 := by
    rw [Nat.zero_add]
    exact Nat.div_eq_of_lt (codeNumber_lt usable has positive bound)
  have reads := reads_decodeGroups (m := 0) (k := k) (by rwa [Nat.zero_add]) (by omega)
  rwa [start, Nat.zero_sub, Nat.zero_add] at reads

/-- A code has at least one bit. -/
theorem IsCode.length_pos {lengths : List Nat} {symbol : Nat} {code : List Bool}
    (isCode : IsCode lengths symbol code) : 0 < code.length := by
  obtain ⟨n, -, positive, -, rfl⟩ := isCode
  rw [List.length_reverse, length_numberBits]
  omega

/-! ### What is taken for a symbol -/

private theorem exists_of_getElem?_symbolsFrom {n start j symbol : Nat} {lengths : List Nat}
    (h : (symbolsFrom n start lengths)[j]? = some symbol) :
    ∃ i, symbol = start + i ∧ lengths[i]? = some n ∧ (lengths.take i).count n = j := by
  induction lengths generalizing start j with
  | nil => simp [symbolsFrom] at h
  | cons length lengths ih =>
    by_cases hn : length = n
    · rw [hn, symbolsFrom_cons_of_eq] at h
      cases j with
      | zero =>
        rw [List.getElem?_cons_zero, Option.some.injEq] at h
        exact ⟨0, h.symm, by rw [hn, List.getElem?_cons_zero], rfl⟩
      | succ j =>
        rw [List.getElem?_cons_succ] at h
        obtain ⟨i, rfl, has, before⟩ := ih h
        refine ⟨i + 1, by omega, has, ?_⟩
        rw [List.take_succ_cons, hn, List.count_cons_self, before]
    · rw [symbolsFrom_cons_of_ne hn] at h
      obtain ⟨i, rfl, has, before⟩ := ih h
      refine ⟨i + 1, by omega, has, ?_⟩
      rw [List.take_succ_cons, List.count_cons_of_ne hn, before]

private theorem reverse_numberBits_add (m v : Nat) (b : Bool) :
    (numberBits (m + 1) (2 * v + b.toNat)).reverse = (numberBits m v).reverse ++ [b] := by
  have := b.toNat_le
  have low : (2 * v + b.toNat).testBit 0 = b := by
    rw [Nat.testBit_zero, Nat.mul_add_mod]
    cases b <;> rfl
  have half : (2 * v + b.toNat) / 2 = v := by omega
  rw [numberBits, low, half, List.reverse_cons]

/-- What has been read of a code is a number of `m` bits that follows all codes of at most `m` bits. The bits
that are taken for a symbol make it the code of that symbol. The induction is on the lengths that are left. -/
private theorem takes_decodeGroups (lengths : List Nat) {m k v : Nat} (left : m + k = greatestCodeLength)
    (past : codesUpTo lengths m ≤ v) :
    Takes (decodeGroups ((ofLengths lengths).groups.drop m) (v - codesUpTo lengths m))
      fun symbol taken => IsCode lengths symbol ((numberBits m v).reverse ++ taken) := by
  intro s s' bits symbol holds found
  induction k generalizing m v s bits with
  | zero =>
    have none : (ofLengths lengths).groups.drop m = [] :=
      List.drop_eq_nil_iff.mpr (by simp [ofLengths]; omega)
    rw [none] at found
    cases found
  | succ k ih =>
    rw [groups_drop lengths (by omega), decodeGroups] at found
    cases first : s.bit? with
    | none =>
      rw [first] at found
      cases found
    | some p =>
      obtain ⟨b, s₁⟩ := p
      obtain ⟨_, bits, rfl, holds₁, rfl⟩ := Takes.bit? holds first
      have offset : 2 * (v - codesUpTo lengths m) + b.toNat =
          2 * v + b.toNat - firstCode lengths (m + 1) := by
        rw [firstCode_succ]
        omega
      have upTo : codesUpTo lengths (m + 1) = firstCode lengths (m + 1) + lengths.count (m + 1) := by
        rw [codesUpTo, if_neg (by omega)]
      have before : firstCode lengths (m + 1) ≤ 2 * v + b.toNat := by
        rw [firstCode_succ]
        omega
      rw [first] at found
      simp only [offset, length_symbolsFrom, Nat.sub_sub, ← upTo] at found
      cases listed : (symbolsFrom (m + 1) 0 lengths)[2 * v + b.toNat - firstCode lengths (m + 1)]? with
      | some symbol' =>
        rw [listed] at found
        obtain ⟨rfl, rfl⟩ := Prod.mk.inj (Option.some.inj found)
        obtain ⟨i, rfl, has, count⟩ := exists_of_getElem?_symbolsFrom listed
        refine ⟨[b], bits, rfl, holds₁, m + 1, by rwa [Nat.zero_add], by omega, by omega, ?_⟩
        have number : codeNumber lengths (0 + i) (m + 1) = 2 * v + b.toNat := by
          rw [codeNumber, Nat.zero_add, count]
          omega
        rw [number, reverse_numberBits_add]
      | none =>
        rw [listed] at found
        have many := List.getElem?_eq_none_iff.mp listed
        rw [length_symbolsFrom] at many
        obtain ⟨taken, rest, rfl, holds', isCode⟩ := ih (by omega) (by omega) holds₁ found
        rw [reverse_numberBits_add, List.append_assoc] at isCode
        exact ⟨b :: taken, rest, rfl, holds', isCode⟩

/-- The bits that are taken for a symbol are its code. -/
theorem takes_decode (lengths : List Nat) : Takes (ofLengths lengths).decode (IsCode lengths) :=
  takes_decodeGroups lengths (m := 0) (v := 0) (Nat.zero_add _) (Nat.le_refl _)

end TextAnalysis.Blob.PrefixCode
