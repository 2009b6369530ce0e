import TextAnalysis.Tokenizer.Arguments

/-!
# Laws of arguments of tokenizers

One pair of equal quotes is taken off a value, and no other.
-/

namespace TextAnalysis

/-- What is meant by a value: what stands between two equal quotes at its ends, or the value itself if it has
no such quotes. -/
inductive Unquotes : String → String → Prop
  | quoted {value inner : String} {quote : Char} (isQuote : quote = '"' ∨ quote = '\x27')
      (eq : value.toList = quote :: (inner.toList ++ [quote])) : Unquotes value inner
  | bare {value : String}
      (noQuotes : ∀ quote inner, quote = '"' ∨ quote = '\x27' → value.toList ≠ quote :: (inner ++ [quote])) :
      Unquotes value value

private theorem stripQuotes_quoted {quote : Char} (isQuote : quote = '"' ∨ quote = '\x27')
    (inner : List Char) : stripQuotes (quote :: (inner ++ [quote])) = inner := by
  cases rest : inner ++ [quote] with
  | nil => simp at rest
  | cons d cs =>
    have last : (d :: cs).getLast? = some quote := by rw [← rest, List.getLast?_concat]
    rw [stripQuotes, if_pos ⟨isQuote, last⟩, ← rest, List.dropLast_concat]

private theorem stripQuotes_bare {cs : List Char}
    (noQuotes : ∀ quote inner, quote = '"' ∨ quote = '\x27' → cs ≠ quote :: (inner ++ [quote])) :
    stripQuotes cs = cs := by
  unfold stripQuotes
  split
  · next c d cs =>
    split
    · next h =>
      obtain ⟨inner, eq⟩ := List.getLast?_eq_some_iff.mp h.2
      exact absurd (congrArg (c :: ·) eq) (noQuotes c inner h.1)
    · rfl
  · rfl

/-- A value means one thing. -/
theorem unquotes_iff {value inner : String} : Unquotes value inner ↔ unquoted value = inner := by
  have bare (noQuotes : ∀ quote inner, quote = '"' ∨ quote = '\x27' →
      value.toList ≠ quote :: (inner ++ [quote])) : unquoted value = value := by
    rw [unquoted, stripQuotes_bare noQuotes, String.ofList_toList]
  constructor
  · rintro (⟨isQuote, eq⟩ | noQuotes)
    · rw [unquoted, eq, stripQuotes_quoted isQuote, String.ofList_toList]
    · exact bare noQuotes
  · rintro rfl
    by_cases quotes : ∃ quote inner, (quote = '"' ∨ quote = '\x27') ∧
        value.toList = quote :: (inner ++ [quote])
    · obtain ⟨quote, inner, isQuote, eq⟩ := quotes
      exact .quoted isQuote (by rw [unquoted, eq, stripQuotes_quoted isQuote, String.toList_ofList])
    · have noQuotes : ∀ quote inner, quote = '"' ∨ quote = '\x27' →
          value.toList ≠ quote :: (inner ++ [quote]) :=
        fun quote inner isQuote eq => quotes ⟨quote, inner, isQuote, eq⟩
      rw [bare noQuotes]
      exact .bare noQuotes

/-- Quotes that are put around a value are taken off again. -/
theorem unquoted_singleQuoted (value : String) : unquoted (singleQuoted value) = value :=
  unquotes_iff.mp (.quoted (.inr rfl) (by simp [singleQuoted]))

end TextAnalysis
