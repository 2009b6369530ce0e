import TextAnalysis.Tokenizer.Arguments
import TextAnalysis.Tokenizer.Overrides
import TextAnalysis.Tokenizer.Runs

/-!
# The ASCII tokenizer

Splits a text into runs of ASCII letters and digits and of characters outside ASCII. Only ASCII
letters are folded.
-/

namespace TextAnalysis

/-- The ASCII tokenizer. -/
structure AsciiWords where
  overrides : Overrides := {}
deriving Repr, DecidableEq

namespace AsciiWords

/-- The name of the tokenizer. -/
def name : String := "ascii"

/-- The tokenizer with one argument more. -/
def withArgument (t : AsciiWords) (key value : String) : Except Error AsciiWords :=
  if key = "tokenchars" then
    .ok { t with overrides := t.overrides.addTokenChars (unquoted value) }
  else if key = "separators" then
    .ok { t with overrides := t.overrides.addSeparators (unquoted value) }
  else .error (unknownArgument name key)

/-- The tokenizer that the arguments ask for. -/
def ofArguments (arguments : List String) : Except Error AsciiWords :=
  foldArguments name withArgument {} arguments

/-- Whether a character belongs to a token. -/
def isTokenChar (t : AsciiWords) (c : Char) : Bool :=
  (t.overrides.verdict? c).getD (128 ≤ c.toNat || c.isAlphanum)

/-- The runs that the tokenizer makes tokens of. -/
def runRule (t : AsciiWords) : RunRule where
  begins := t.isTokenChar
  continues := t.isTokenChar
  fold c := [c.toLower]

end AsciiWords

end TextAnalysis
