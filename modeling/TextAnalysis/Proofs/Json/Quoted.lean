import TextAnalysis.Json.Quoted

/-!
# Laws of JSON strings

Every text is read back as it was written, whatever its characters: quotes, backslashes and control
characters are escaped, and all others stand for themselves.
-/

namespace TextAnalysis.Json

private theorem hexValue?_digitChar : ∀ n < 16, hexValue? (Nat.digitChar n) = some n := by
  decide

/-- Four digits of an escape can be read where four characters stand. -/
private theorem openDigits_of_length (high : Option Nat) {cs : List Char} (h : 4 ≤ cs.length) :
    openDigits high cs = .ok (.digits 4 0 high) := by
  have atLeast : ∀ ds : List Char, ds.length ≤ Text.byteLength ds := by
    intro ds
    induction ds with
    | nil => exact Nat.le_refl 0
    | cons d ds ih =>
      have := d.utf8Size_pos
      rw [List.length_cons, Text.byteLength]
      omega
  have := atLeast (cs.take 4)
  rw [List.length_take, Nat.min_eq_left h] at this
  rw [openDigits, if_neg (Nat.not_lt.mpr this)]

/-- A control character is read from its escape with four digits. -/
private theorem readBody_control {c : Char} (h : c.toNat < 0x20) (read cs : List Char) :
    readBody true .plain read
        (['\\', 'u', '0', '0', Nat.digitChar (c.toNat / 16), Nat.digitChar (c.toNat % 16)] ++ cs) =
      readBody true .plain (c :: read) cs := by
  have first := hexValue?_digitChar (c.toNat / 16) (by omega)
  have second := hexValue?_digitChar (c.toNat % 16) (by omega)
  have value : 16 * (c.toNat / 16) + c.toNat % 16 = c.toNat := by omega
  have closed : closeDigits none c.toNat = .ok (some c, .plain) := by
    have low : isLowUnit c.toNat = false := by simp [isLowUnit]; omega
    have high : isHighUnit c.toNat = false := by simp [isHighUnit]; omega
    rw [closeDigits]
    simp only [low, high, Bool.false_eq_true, if_false, Char.ofNat_toNat]
  have zero : hexValue? '0' = some 0 := rfl
  simp [readBody, openDigits_of_length, zero, first, second, value, closed]

/-- A written character is read as the character. -/
theorem readBody_writeChar (c : Char) (read cs : List Char) :
    readBody true .plain read (writeChar c ++ cs) = readBody true .plain (c :: read) cs := by
  unfold writeChar
  split
  iterate 7 · rfl
  · next quote backslash _ _ _ _ _ =>
    split
    · next hc => exact readBody_control hc read cs
    · next hc => rw [List.singleton_append, readBody, if_neg quote, if_neg backslash, if_neg hc]

/-- Written characters are read up to the closing quote. -/
theorem readBody_flatMap_writeChar (cs read rest : List Char) :
    readBody true .plain read (cs.flatMap writeChar ++ '"' :: rest) = .ok (read.reverse ++ cs, rest) := by
  induction cs generalizing read with
  | nil => simp [readBody]
  | cons c cs ih =>
    rw [List.flatMap_cons, List.append_assoc, readBody_writeChar, ih, List.reverse_cons,
      List.append_assoc, List.singleton_append]

/-- A written text is read back, whatever follows it. -/
theorem readString_writeString (s : String) (rest : List Char) :
    ∃ body, writeString s = '"' :: body ∧ readString (body ++ rest) = .ok (s, rest) := by
  refine ⟨s.toList.flatMap writeChar ++ ['"'], rfl, ?_⟩
  rw [readString, List.append_assoc, List.singleton_append, readBody_flatMap_writeChar]
  simp only [List.reverse_nil, List.nil_append, String.ofList_toList]

end TextAnalysis.Json
