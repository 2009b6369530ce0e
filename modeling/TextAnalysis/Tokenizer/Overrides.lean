/-!
# Overrides of character classes

A tokenizer can be told to take characters into tokens, or to split at them, whatever their class.
-/

namespace TextAnalysis

/-- Characters that belong to tokens and characters that separate them. A character that is both
separates. -/
structure Overrides where
  tokenChars : List Char := []
  separators : List Char := []
deriving Repr, DecidableEq

namespace Overrides

/-- Take more characters into tokens. -/
def addTokenChars (o : Overrides) (chars : String) : Overrides :=
  { o with tokenChars := o.tokenChars ++ chars.toList }

/-- Split at more characters. -/
def addSeparators (o : Overrides) (chars : String) : Overrides :=
  { o with separators := o.separators ++ chars.toList }

/-- Whether a character belongs to a token, where that is overridden. -/
def verdict? (o : Overrides) (c : Char) : Option Bool :=
  if o.separators.contains c then some false
  else if o.tokenChars.contains c then some true
  else none

end Overrides

end TextAnalysis
