import TextAnalysis.Proofs.Text.Halves

/-!
# Marks and small letters

The small form of a character that is no combining mark is no combining mark. If a letter is a base with a mark,
its small form is the small form of the base with the same mark. The capital `I` with a dot above is the only
exception to both: it has a lowercase form of two characters, and the second one is a mark.
-/

namespace TextAnalysis.Text

/-! ### Small letters -/

/-- The small form of a character. -/
def small (c : Char) : Char := Char.ofNat (lowerCode capitals c.toNat)

/-- The lowercase form of all characters but one is one character. -/
theorem lowercase_of_ne {c : Char} (h : c ≠ 'İ') : lowercase c = [small c] := by
  rw [lowercase, if_neg, small]
  exact fun code => h (Char.toNat_inj.mp code)

/-- A code point is its own lowercase form, unless it is in a run: then it may be as far into the lowercase forms
of the run. -/
theorem lowerCode_cases (rs : List CapitalRun) (n : Nat) :
    lowerCode rs n = n ∨
      ∃ r ∈ rs, n ≤ r.last ∧ lowerCode rs n = r.lower + (n - r.first) := by
  induction rs with
  | nil => exact .inl rfl
  | cons r rs ih =>
    rw [lowerCode]
    split
    · exact .inl rfl
    · split
      · next among => exact .inr ⟨r, List.mem_cons_self, among.1, rfl⟩
      · obtain same | ⟨r', mem, le, eq⟩ := ih
        · exact .inl same
        · exact .inr ⟨r', List.mem_cons_of_mem r mem, le, eq⟩

private theorem toNat_ofNat {n : Nat} (valid : n.isValidChar) : (Char.ofNat n).toNat = n := by
  rw [Char.ofNat, dif_pos valid]
  rfl

/-- The lowercase forms in a run are scalar values, and none of them is a combining mark. -/
private theorem lower_capitals : ∀ r ∈ capitals,
    (r.lower + (r.last - r.first) < 0xD800 ∨ 0xDFFF < r.lower ∧ r.lower + (r.last - r.first) < 0x110000) ∧
      markRanges.avoids r.lower (r.lower + (r.last - r.first)) = true := by
  simp only [avoids_markRanges]
  decide +kernel

/-- The small form of a character has the code point that the runs of capitals give. -/
theorem toNat_small (c : Char) : (small c).toNat = lowerCode capitals c.toNat := by
  obtain same | ⟨r, mem, le, eq⟩ := lowerCode_cases capitals c.toNat
  · rw [small, same, Char.ofNat_toNat]
  · have valid : (lowerCode capitals c.toNat).isValidChar := by
      have := (lower_capitals r mem).1
      rw [eq, Nat.isValidChar]
      omega
    rw [small, toNat_ofNat valid]

/-- Small letters are no combining marks. -/
theorem isCombiningMark_small {c : Char} (h : isCombiningMark c = false) : isCombiningMark (small c) = false := by
  rw [isCombiningMark, toNat_small]
  obtain same | ⟨r, mem, le, eq⟩ := lowerCode_cases capitals c.toNat
  · rwa [same]
  · rw [eq]
    exact Ranges.contains_of_avoids (lower_capitals r mem).2 (by omega) (by omega)

/-! ### Letters with a mark -/

/-- The canonical decomposition of a code point. -/
def decomposeCode (n : Nat) : List Nat :=
  if 0xAC00 ≤ n ∧ n ≤ 0xD7A3 then hangulLetters (n - 0xAC00) else (lookupAscending? decompositions n).getD [n]

/-- A character is decomposed by its code point. -/
theorem decompose_eq (c : Char) : decompose c = (decomposeCode c.toNat).map Char.ofNat := by
  rw [decompose, decomposeCode]
  split
  · rfl
  · cases lookupAscending? decompositions c.toNat with
    | none => rw [Option.getD_none, List.map_singleton, Char.ofNat_toNat]
    | some codes => rfl

/-- The character decomposes into a base, which is no mark, and one mark. -/
structure Marked (c base mark : Char) : Prop where
  /-- The parts are the base and the mark. -/
  parts : decompose c = [base, mark]
  /-- The base is no combining mark. -/
  base_eq : isCombiningMark base = false
  /-- The mark is a combining mark. -/
  mark_eq : isCombiningMark mark = true

/-- What holds of a code point that decomposes into the base `b` and the mark `m`. -/
structure Regular (n b m : Nat) : Prop where
  /-- It is beyond ASCII. -/
  ge : 128 ≤ n
  /-- It is no mark itself. -/
  not_mark : markRanges.contains n = false
  /-- The base is a letter or a number, or it is none itself. -/
  alphanumeric : alphanumericRanges.contains b = true ∨ alphanumericRanges.contains n = false
  /-- The base has a lowercase form of one character. -/
  base_ne : b ≠ 0x130
  /-- The mark is whole. -/
  mark_parts : decomposeCode m = [m]
  /-- The small form of the base is whole. -/
  base_parts : decomposeCode (lowerCode capitals b) = [lowerCode capitals b]
  /-- The small form has the small form of the base and the same mark, also if these are small already. -/
  small_parts : n = 0x130 ∨ lowerCode capitals n = n ∧ lowerCode capitals b = b ∨
    decomposeCode (lowerCode capitals n) = [lowerCode capitals b, m]

private def checks (n : Nat) : List Nat → Bool
  | [b, m] =>
    decide (b.isValidChar ∧ m.isValidChar) &&
      (markRanges.contains b || !markRanges.contains m ||
        decide (128 ≤ n ∧ markRanges.contains n = false ∧
          (alphanumericRanges.contains b = true ∨ alphanumericRanges.contains n = false) ∧ b ≠ 0x130 ∧
          decomposeCode m = [m] ∧ decomposeCode (lowerCode capitals b) = [lowerCode capitals b] ∧
          (n = 0x130 ∨ lowerCode capitals n = n ∧ lowerCode capitals b = b ∨
            decomposeCode (lowerCode capitals n) = [lowerCode capitals b, m])))
  | _ => true

private theorem checks_decompositions : ∀ entry ∈ decompositions, checks entry.1 entry.2 = true := by
  simp only [checks, decomposeCode, lookupAscending?_decompositions, lowerCode_capitals, contains_markRanges,
    contains_alphanumericRanges]
  decide +kernel

/-- Where the table has a base and a mark, the code points are regular. -/
private theorem regular_of_mem {n b m : Nat} (mem : (n, [b, m]) ∈ decompositions) :
    (b.isValidChar ∧ m.isValidChar) ∧
      (markRanges.contains b = false → markRanges.contains m = true → Regular n b m) := by
  have law := checks_decompositions _ mem
  rw [checks, Bool.and_eq_true, decide_eq_true_eq] at law
  obtain ⟨valid, law⟩ := law
  refine ⟨valid, fun base_eq mark_eq => ?_⟩
  rw [base_eq, mark_eq, Bool.not_true, Bool.or_self, Bool.false_or, decide_eq_true_eq] at law
  obtain ⟨ge, not_mark, alphanumeric, base_ne, mark_parts, base_parts, small_parts⟩ := law
  exact ⟨ge, not_mark, alphanumeric, base_ne, mark_parts, base_parts, small_parts⟩

/-- A Hangul syllable of two letters ends in a vowel, which is no mark. -/
private theorem isCombiningMark_of_hangulLetters {s lead vowel : Nat}
    (letters : hangulLetters s = [lead, vowel]) : isCombiningMark (Char.ofNat vowel) = false := by
  have avoids : markRanges.avoids 0x1161 0x1175 = true := by
    rw [avoids_markRanges]
    decide +kernel
  rw [hangulLetters] at letters
  split at letters
  · cases letters
    have valid : (0x1161 + s % 588 / 28).isValidChar := .inl (by omega)
    rw [isCombiningMark, toNat_ofNat valid]
    exact Ranges.contains_of_avoids avoids (by omega) (by omega)
  · cases letters

private theorem map_eq_pair {α β : Type} {f : α → β} {l : List α} {x y : β} (h : l.map f = [x, y]) :
    ∃ a b, l = [a, b] ∧ f a = x ∧ f b = y := by
  obtain ⟨a, rest, rfl, hx, h⟩ := List.map_eq_cons_iff.mp h
  obtain ⟨b, rfl, hy⟩ := List.map_eq_singleton_iff.mp h
  exact ⟨a, b, rfl, hx, hy⟩

namespace Marked

variable {c base mark : Char}

/-- The code points of a base with a mark are regular. -/
theorem regular (h : Marked c base mark) : Regular c.toNat base.toNat mark.toNat := by
  obtain ⟨parts, base_eq, mark_eq⟩ := h
  rw [decompose_eq] at parts
  obtain ⟨b, m, codes, rfl, rfl⟩ := map_eq_pair parts
  rw [decomposeCode] at codes
  split at codes
  · rw [isCombiningMark_of_hangulLetters codes] at mark_eq
    cases mark_eq
  · cases found : lookupAscending? decompositions c.toNat with
    | none => rw [found] at codes; cases codes
    | some entry =>
      rw [found, Option.getD_some] at codes
      subst codes
      obtain ⟨⟨validBase, validMark⟩, regular⟩ := regular_of_mem (mem_of_lookupAscending? found)
      rw [isCombiningMark, toNat_ofNat validBase] at base_eq
      rw [isCombiningMark, toNat_ofNat validMark] at mark_eq
      rw [toNat_ofNat validBase, toNat_ofNat validMark]
      exact regular base_eq mark_eq

/-- A base with a mark is no mark. -/
theorem not_mark (h : Marked c base mark) : isCombiningMark c = false := h.regular.not_mark

/-- The base of a letter is a letter. -/
theorem isAlphanumeric_base (h : Marked c base mark) (letter : isAlphanumeric c = true) :
    isAlphanumeric base = true :=
  h.regular.alphanumeric.resolve_right fun none => Bool.false_ne_true (none.symm.trans letter)

/-- The base is not the letter with a lowercase form of two characters. -/
theorem base_ne (h : Marked c base mark) : base ≠ 'İ' :=
  fun eq => h.regular.base_ne (congrArg Char.toNat eq)

/-- The mark is whole. -/
theorem decompose_mark (h : Marked c base mark) : decompose mark = [mark] := by
  rw [decompose_eq, h.regular.mark_parts, List.map_singleton, Char.ofNat_toNat]

/-- The small form of the base is whole. -/
theorem decompose_small_base (h : Marked c base mark) : decompose (small base) = [small base] := by
  rw [decompose_eq, toNat_small, h.regular.base_parts]
  rfl

/-- The small form of a base with a mark is the small form of the base with the mark. -/
theorem small (h : Marked c base mark) (other : c ≠ 'İ') : Marked (small c) (small base) mark where
  parts := by
    obtain dotted | ⟨already, base_already⟩ | small_parts := h.regular.small_parts
    · exact absurd (Char.toNat_inj.mp dotted) other
    · rw [Text.small, Text.small, already, base_already, Char.ofNat_toNat, Char.ofNat_toNat, h.parts]
    · rw [decompose_eq, toNat_small, small_parts, List.map_cons, List.map_singleton, Char.ofNat_toNat]
      rfl
  base_eq := isCombiningMark_small h.base_eq
  mark_eq := h.mark_eq

/-- The capital `I` with a dot above is a base with one mark. -/
theorem dotted : Marked 'İ' 'I' '\u0307' := ⟨by rfl, by rfl, by rfl⟩

end Marked

end TextAnalysis.Text
