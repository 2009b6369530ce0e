import TextAnalysis.Text.Numeral
import TextAnalysis.Tokenizer.Basic

/-!
# Snippets

The number of tokens of a text, and the part of a text that some of its tokens span. The text is
tokenized as for an auxiliary function, and no further than needed. Positions are counts, so there is a
greatest one, which stands for all that lie beyond it.
-/

namespace TextAnalysis.Tokenizer

open StopWords

variable {S L σ : Type}

/-- The sink that counts tokens. -/
def countingSink : Sink (Nat × σ) := fun _ (n, s) => (.ok .proceed, n + 1, s)

/-- The number of tokens of a text. -/
def count (t : Tokenizer S L) (access : Access S L σ) (text : String) (s : σ) :
    Except Error Nat × Tokenizer S L × σ :=
  let (answer, t, n, s) := t.tokenize text .forAuxiliary (access.beside Nat) countingSink (0, s)
  (answer.map fun _ => n, t, s)

/-- What is known of a span while tokens come in: how many have come, and from which byte to which
the span reaches so far. -/
structure SpanSoFar where
  seen : Nat := 0
  reach : Option (Nat × Nat) := none
deriving Repr, DecidableEq

/-- The span with one token more, where the token at `first` is the first one that it covers. -/
def SpanSoFar.extend (first : Nat) (span : SpanSoFar) (token : Token) : SpanSoFar :=
  { seen := span.seen + 1
    reach :=
      if span.seen = first then some (token.start, token.stop)
      else span.reach.map fun r => (r.1, token.stop) }

/-- The sink that follows a span from the token at `first` to the one at `last`, where it has
enough. -/
def spanningSink (first last : Nat) : Sink (SpanSoFar × σ) := fun token (span, s) =>
  (.ok (if span.seen = last then .halt else .proceed), span.extend first token, s)

/-- The position of the last of `count` tokens from the one at `first` on. -/
def lastPosition (first count : Nat) : Nat := min (first + (count - 1)) (Text.countLimit - 1)

/-- The part of a text that is spanned by `count` tokens from the one at `first` on, or by as many as
there are. -/
def snippet (t : Tokenizer S L) (access : Access S L σ) (text : String) (first count : Nat) (s : σ) :
    Except Error String × Tokenizer S L × σ :=
  if count = 0 then (.ok "", t, s)
  else
    let (answer, t, span, s) :=
      t.tokenize text .forAuxiliary (access.beside SpanSoFar)
        (spanningSink first (lastPosition first count)) ({}, s)
    let part := (span.reach.bind fun r => Text.slice? text r.1 r.2).getD ""
    (answer.map fun _ => part, t, s)

end TextAnalysis.Tokenizer
