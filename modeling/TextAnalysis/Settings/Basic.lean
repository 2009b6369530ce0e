import TextAnalysis.Stem.Cascade
import TextAnalysis.StopWords.Stage
import TextAnalysis.Tokenizer.Arguments
import TextAnalysis.Tokenizer.UnicodeWords

/-!
# Settings

The settings of a stemming tokenizer, what they demand of the tokenizer that it wraps, and whether an
index that was built with other settings can be served.
-/

namespace TextAnalysis

/-- The settings of a stemming tokenizer: its languages in order, whether diacritics are taken off,
which characters are taken into tokens or split at, and the length in bytes from which on a token is
kept. -/
structure Settings where
  languages : List String := ["english"]
  removeDiacritics : Bool := true
  tokenCharacters : String := ""
  separators : String := ""
  minTokenLength : Nat := defaultLeastTokenLength
deriving Repr, DecidableEq

namespace Settings

/-- The settings for the given languages, all else as usual. -/
def ofLanguages (languages : List String) : Settings := { languages }

/-- The languages, if there is at least one and each is known. -/
def resolve (s : Settings) : Except Error (List Language) :=
  if s.languages = [] then .error (.configuration "stemmer language list cannot be empty")
  else s.languages.mapM Language.parse

/-- The cascade of the languages. -/
def cascade (s : Settings) : Except Error Cascade := s.resolve >>= Cascade.ofLanguages

/-- What happens to diacritics. -/
def diacritics (s : Settings) : Diacritics := if s.removeDiacritics then .removeSingle else .keep

/-- The arguments that tell a tokenizer of characters to take in and to split at. -/
def overrideArguments (s : Settings) : List String :=
  (if s.tokenCharacters = "" then [] else ["tokenchars", singleQuoted s.tokenCharacters]) ++
    (if s.separators = "" then [] else ["separators", singleQuoted s.separators])

/-- The arguments that tell a tokenizer of all settings that concern it. -/
def wordArguments (s : Settings) : List String :=
  "remove_diacritics" :: s.diacritics.argument :: s.overrideArguments

/-- Whether an index that was built with `stored` can be served: all settings are the same but the
least length of a token. -/
def serves (s stored : Settings) : Bool :=
  s.languages = stored.languages && s.removeDiacritics = stored.removeDiacritics &&
    s.tokenCharacters = stored.tokenCharacters && s.separators = stored.separators

end Settings

end TextAnalysis
