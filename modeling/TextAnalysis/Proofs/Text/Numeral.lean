import TextAnalysis.Text.Blank
import TextAnalysis.Text.Numeral

/-!
# Laws of decimal numerals

The decimal digits of a number are read as that number, and only zero is written with a zero in front. There
are no blanks among them, so trimming them changes nothing.
-/

namespace TextAnalysis.Text

/-- Digits that are read after a value continue it. -/
theorem digitsValue?_eq_ofDigitChars {cs : List Char} (digits : ∀ c ∈ cs, c.isDigit = true) (n : Nat) :
    digitsValue? n cs = some (Nat.ofDigitChars 10 cs n) := by
  induction cs generalizing n with
  | nil => rfl
  | cons c cs ih =>
    obtain ⟨hc, digits⟩ := List.forall_mem_cons.mp digits
    rw [digitsValue?, if_pos hc, ih digits, Nat.ofDigitChars_cons]
    rfl

/-- All characters that are read must be digits. -/
theorem digitsValue?_eq_some_iff {cs : List Char} {n m : Nat} :
    digitsValue? n cs = some m ↔ (∀ c ∈ cs, c.isDigit = true) ∧ Nat.ofDigitChars 10 cs n = m := by
  constructor
  · intro h
    have digits : ∀ c ∈ cs, c.isDigit = true := by
      induction cs generalizing n with
      | nil => simp
      | cons c cs ih =>
        rw [digitsValue?] at h
        obtain ⟨hc, h⟩ := Option.ite_none_right_eq_some.mp h
        exact List.forall_mem_cons.mpr ⟨hc, ih h⟩
    rw [digitsValue?_eq_ofDigitChars digits] at h
    exact ⟨digits, Option.some.inj h⟩
  · rintro ⟨digits, rfl⟩
    exact digitsValue?_eq_ofDigitChars digits n

/-- The characters are a numeral of a count that fits in 64 bits: an optional plus sign and one or more
digits. -/
inductive IsCountNumeral (n : Nat) : List Char → Prop
  | numeral {sign digits : List Char} (optional : sign = [] ∨ sign = ['+']) (some_digits : digits ≠ [])
      (all_digits : ∀ c ∈ digits, c.isDigit = true) (value : Nat.ofDigitChars 10 digits 0 = n)
      (fits : n < countLimit) : IsCountNumeral n (sign ++ digits)

private theorem unsigned?_eq_some_iff {cs : List Char} {n : Nat} :
    unsigned? cs = some n ↔
      cs ≠ [] ∧ (∀ c ∈ cs, c.isDigit = true) ∧ Nat.ofDigitChars 10 cs 0 = n := by
  cases cs with
  | nil => simp [unsigned?]
  | cons c cs => simp only [unsigned?, digitsValue?_eq_some_iff, ne_eq, reduceCtorEq, not_false_eq_true, true_and]

/-- A plus sign is no digit. -/
private theorem dropPlus_of_isDigit {cs : List Char} (digits : ∀ c ∈ cs, c.isDigit = true) :
    dropPlus cs = cs := by
  unfold dropPlus
  split
  · next cs => exact absurd (digits '+' List.mem_cons_self) (by decide)
  · rfl

/-- A text spells the counts of which it is a numeral. -/
theorem count?_eq_some_iff {s : String} {n : Nat} : count? s = some n ↔ IsCountNumeral n s.toList := by
  rw [count?, Option.filter_eq_some_iff, unsigned?_eq_some_iff, decide_eq_true_iff]
  generalize s.toList = cs
  constructor
  · rintro ⟨⟨some_digits, all_digits, value⟩, fits⟩
    have parts : ∃ sign, (sign = [] ∨ sign = ['+']) ∧ cs = sign ++ dropPlus cs := by
      unfold dropPlus
      split
      · exact ⟨['+'], .inr rfl, rfl⟩
      · exact ⟨[], .inl rfl, rfl⟩
    obtain ⟨sign, optional, eq⟩ := parts
    rw [eq]
    exact .numeral optional some_digits all_digits value fits
  · rintro ⟨rfl | rfl, some_digits, all_digits, value, fits⟩
    · rw [List.nil_append, dropPlus_of_isDigit all_digits]
      exact ⟨⟨some_digits, all_digits, value⟩, fits⟩
    · exact ⟨⟨some_digits, all_digits, value⟩, fits⟩

/-- The digits of a number are digits. -/
theorem isDigit_of_mem_toDigits {n : Nat} {c : Char} (h : c ∈ Nat.toDigits 10 n) : c.isDigit = true :=
  Nat.isDigit_of_mem_toDigits (by decide) (by decide) h

/-- The value of the digits of a number is the number. -/
theorem digitsValue?_toDigits (n : Nat) : digitsValue? 0 (Nat.toDigits 10 n) = some n := by
  rw [digitsValue?_eq_ofDigitChars fun _ => isDigit_of_mem_toDigits,
    Nat.ofDigitChars_toDigits (by decide) (by decide)]

/-- Only the digits of zero begin with a zero. -/
theorem eq_zero_of_head?_toDigits {n : Nat} (h : (Nat.toDigits 10 n).head? = some '0') : n = 0 := by
  induction n using Nat.strongRecOn with
  | ind n ih =>
    by_cases small : n < 10
    · rw [Nat.toDigits_of_lt_base small, List.head?_cons, Option.some.injEq] at h
      exact (by decide : ∀ k < 10, Nat.digitChar k = '0' → k = 0) n small h
    · have lead : (Nat.toDigits 10 (n / 10)).head? = some '0' := by
        rwa [Nat.toDigits_eq_if (by decide), if_neg small, List.head?_append,
          Option.or_of_isSome (by simp [Nat.toDigits_ne_nil])] at h
      have := ih (n / 10) (by omega) lead
      omega

/-- A text without blanks at its ends is not changed by trimming it. -/
theorem trim_eq_self {s : String} (first : ∀ c, s.toList.head? = some c → isBlank c = false)
    (last : ∀ c, s.toList.getLast? = some c → isBlank c = false) : trim s = s := by
  have keep {cs : List Char} (h : ∀ c, cs.head? = some c → isBlank c = false) :
      cs.dropWhile isBlank = cs := by
    cases cs with
    | nil => rfl
    | cons c cs => rw [List.dropWhile_cons_of_neg (by simp [h c rfl])]
  rw [trim, trimEnd, keep first, keep (by rwa [List.head?_reverse]), List.reverse_reverse,
    String.ofList_toList]

/-- Digits are not blank. -/
theorem isBlank_of_isDigit {c : Char} (digit : c.isDigit = true) : isBlank c = false := by
  obtain ⟨ge, le⟩ := Char.isDigit_iff_toNat.mp digit
  have below : ∀ n < 58, 48 ≤ n → blankRanges.contains n = false := by decide
  exact below c.toNat (Nat.lt_succ_of_le le) ge

/-- The digits of a count are a numeral of it, also when they are trimmed. -/
theorem isCountNumeral_trim_decimal {n : Nat} (fits : n < countLimit) :
    IsCountNumeral n (trim (decimal n)).toList := by
  have notBlank {c : Char} (mem : c ∈ (decimal n).toList) : isBlank c = false := by
    rw [decimal, String.toList_ofList] at mem
    exact isBlank_of_isDigit (isDigit_of_mem_toDigits mem)
  rw [trim_eq_self (fun c head => notBlank (List.mem_of_mem_head? head))
    (fun c last => notBlank (List.mem_of_mem_getLast? last)), decimal, String.toList_ofList]
  have value : Nat.ofDigitChars 10 (Nat.toDigits 10 n) 0 = n :=
    Nat.ofDigitChars_toDigits (by decide) (by decide)
  exact .numeral (.inl rfl) Nat.toDigits_ne_nil (fun _ => isDigit_of_mem_toDigits) value fits

end TextAnalysis.Text
