import TextAnalysis.Text.Alphanumeric
import TextAnalysis.Text.Blank
import TextAnalysis.Text.CombiningMark
import TextAnalysis.Text.Decomposition
import TextAnalysis.Text.Lowercase
import TextAnalysis.Tokenizer.Arguments
import TextAnalysis.Tokenizer.Overrides
import TextAnalysis.Tokenizer.Runs

/-!
# The Unicode tokenizer

Splits a text into runs of letters, numbers and characters for private use, folds each run to small
letters and, if wanted, takes off diacritics. A combining mark continues a run but does not begin one.
-/

namespace TextAnalysis

/-- What happens to diacritics: they are kept, or taken off characters that carry one, or taken off
all characters. -/
inductive Diacritics where
  | keep
  | removeSingle
  | removeAll
deriving Repr, DecidableEq

namespace Diacritics

/-- The treatment that an argument asks for. -/
def parse (s : String) : Except Error Diacritics :=
  let value := Text.trim s
  if value = "0" then .ok keep
  else if value = "1" then .ok removeSingle
  else if value = "2" then .ok removeAll
  else .error (.configuration ("remove_diacritics must be 0, 1 or 2, got '" ++ value ++ "'"))

/-- The argument that asks for a treatment. -/
def argument : Diacritics → String
  | keep => "0"
  | removeSingle => "1"
  | removeAll => "2"

/-- The base letter of a character with marks: the one character of its decomposition that is no
mark, if at most one mark goes with it or if all marks are to go. -/
def base? (d : Diacritics) (c : Char) : Option Char :=
  let parts := Text.decompose c
  match parts.filter fun p => !Text.isCombiningMark p with
  | [b] => if d = removeAll ∨ parts.length ≤ 2 then some b else none
  | _ => none

/-- A character with its diacritics treated. -/
def strip (d : Diacritics) (c : Char) : Char :=
  if d = keep ∨ c.toNat < 128 then c else (d.base? c).getD c

end Diacritics

/-- Whether a character is set apart for private use. -/
def isPrivateUse (c : Char) : Bool :=
  (0xE000 ≤ c.toNat && c.toNat ≤ 0xF8FF) || (0xF0000 ≤ c.toNat && c.toNat ≤ 0xFFFFD) ||
    (0x100000 ≤ c.toNat && c.toNat ≤ 0x10FFFD)

/-- The Unicode tokenizer. -/
structure UnicodeWords where
  diacritics : Diacritics := .removeSingle
  overrides : Overrides := {}
deriving Repr, DecidableEq

namespace UnicodeWords

/-- The name of the tokenizer. -/
def name : String := "unicode61"

/-- The tokenizer with one argument more. -/
def withArgument (t : UnicodeWords) (key value : String) : Except Error UnicodeWords :=
  if key = "remove_diacritics" then
    match Diacritics.parse (unquoted value) with
    | .ok diacritics => .ok { t with diacritics }
    | .error e => .error e
  else if key = "tokenchars" then
    .ok { t with overrides := t.overrides.addTokenChars (unquoted value) }
  else if key = "separators" then
    .ok { t with overrides := t.overrides.addSeparators (unquoted value) }
  else .error (unknownArgument name key)

/-- The tokenizer that the arguments ask for. -/
def ofArguments (arguments : List String) : Except Error UnicodeWords :=
  foldArguments name withArgument {} arguments

/-- Whether a character belongs to a token and may begin one. -/
def isTokenChar (t : UnicodeWords) (c : Char) : Bool :=
  (t.overrides.verdict? c).getD (Text.isAlphanumeric c || isPrivateUse c)

/-- Whether a character continues a token. -/
def continuesToken (t : UnicodeWords) (c : Char) : Bool :=
  t.isTokenChar c || (Text.isCombiningMark c && (t.overrides.verdict? c).isNone)

/-- What a character becomes in a token. -/
def fold (t : UnicodeWords) (c : Char) : List Char :=
  if t.diacritics ≠ .keep ∧ Text.isCombiningMark c then []
  else (Text.lowercase c).map t.diacritics.strip

/-- The runs that the tokenizer makes tokens of. -/
def runRule (t : UnicodeWords) : RunRule where
  begins := t.isTokenChar
  continues := t.continuesToken
  fold := t.fold

end UnicodeWords

end TextAnalysis
