import TextAnalysis.Text.Span

/-!
# Tokens

A token is a piece of text to be indexed and the place in the input that it came from. A filter may
replace the text; the place stays, so that the source of a token can always be shown.
-/

namespace TextAnalysis

/-- A token. Its source runs from byte `start` of the input up to byte `stop`. A colocated token has
the position of the token before it. -/
structure Token where
  text : String
  start : Nat
  stop : Nat
  colocated : Bool := false
deriving Repr, DecidableEq

namespace Token

/-- The token with another text. -/
def withText (t : Token) (text : String) : Token := { t with text }

/-- The number of bytes of the text. -/
def size (t : Token) : Nat := t.text.utf8ByteSize

/-- The part of `input` that the token came from, if its place is meaningful there. -/
def source? (t : Token) (input : String) : Option String := Text.slice? input t.start t.stop

/-- The token as it is found `n` bytes further into the input. -/
def shift (t : Token) (n : Nat) : Token := { t with start := t.start + n, stop := t.stop + n }

end Token

end TextAnalysis
