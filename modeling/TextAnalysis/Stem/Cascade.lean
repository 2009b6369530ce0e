import TextAnalysis.Stem.Language
import TextAnalysis.Text.Span

/-!
# Stemmer cascades

A cascade offers a token to several languages in turn. The first stem whose length in bytes differs
from that of the token is taken; if there is none, the token stays as it is.
-/

namespace TextAnalysis

/-- Tokens of fewer bytes are not stemmed. -/
def leastStemLength : Nat := 3

/-- Tokens of more bytes are not stemmed. -/
def greatestStemLength : Nat := 64

/-- The first stem whose length in bytes is not that of the token. -/
def firstChange? (token : List Char) : List (List Char → List Char) → Option (List Char)
  | [] => none
  | stem :: stems =>
    if Text.byteLength (stem token) ≠ Text.byteLength token then some (stem token)
    else firstChange? token stems

/-- A token after the given stemmers, of which the first that changes its length decides. -/
def stemWith (stems : List (List Char → List Char)) (token : List Char) : List Char :=
  if leastStemLength ≤ Text.byteLength token ∧ Text.byteLength token ≤ greatestStemLength then
    (firstChange? token stems).getD token
  else token

/-- The languages of a cascade, in order. There is at least one. -/
structure Cascade where
  languages : List Language
  nonempty : languages ≠ []
deriving DecidableEq

namespace Cascade

/-- The cascade of the given languages. -/
def ofLanguages (languages : List Language) : Except Error Cascade :=
  if h : languages = [] then .error (.configuration "stemmer language list cannot be empty")
  else .ok ⟨languages, h⟩

/-- The cascade of the languages that the texts identify. -/
def ofIdentifiers (names : List String) : Except Error Cascade :=
  names.mapM Language.parse >>= ofLanguages

/-- The stem of a token. -/
def stem (c : Cascade) (token : String) : String :=
  String.ofList (stemWith (c.languages.map Language.stem) token.toList)

/-- The text that shows the languages of a cascade. -/
def describe (c : Cascade) : String :=
  "StemmerCascade \x7b languages: [" ++ ", ".intercalate (c.languages.map Language.title) ++ "] \x7d"

end Cascade

end TextAnalysis
