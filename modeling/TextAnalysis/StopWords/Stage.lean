import TextAnalysis.Stem.Cascade
import TextAnalysis.StopWords.Oracle
import TextAnalysis.Text.Numeral
import TextAnalysis.Text.Quoted
import TextAnalysis.Token.Mode
import TextAnalysis.Token.Sink

/-!
# The stemming stage

What happens to each token between a tokenizer and a sink: a short token is dropped, then a stop word
if stop words are suppressed, and any other token is stemmed. Its place in the input is kept.
-/

namespace TextAnalysis

open StopWords

/-- Tokens of fewer bytes are dropped unless it is set otherwise. -/
def defaultLeastTokenLength : Nat := 3

/-- Whether stop words are suppressed in a call: in a query whose last term is complete and that is
not a phrase. A text with a space is a phrase, in which stop words must stay. -/
def suppressesStopWords (mode : Mode) (text : String) : Bool :=
  mode.query && !mode.partialTerm && !text.toList.contains ' '

/-- A filter that drops tokens of fewer than `leastLength` bytes and stems the others. -/
structure Stage where
  cascade : Cascade
  leastLength : Nat
deriving DecidableEq

namespace Stage

variable {S L σ : Type}

/-- The error of a word that could not be looked up. -/
def lookupError (word : String) : Error :=
  .stopWordLookup ("could not check " ++ Text.quoted word ++ " against the stop word store")

/-- The token with its text stemmed. -/
def stemmed (stage : Stage) (token : Token) : Token :=
  token.withText (stage.cascade.stem token.text)

/-- Stem one token, or drop it. -/
def refine (access : Access S L σ) (stage : Stage) (suppress : Bool) (token : Token)
    (oracle : Oracle S L) (s : σ) : Except Error (Option Token) × Oracle S L × σ :=
  if token.size < stage.leastLength then (.ok none, oracle, s)
  else if suppress then
    match oracle.ask access token.text s with
    | (.yes, oracle, s) => (.ok none, oracle, s)
    | (.no, oracle, s) => (.ok (some (stage.stemmed token)), oracle, s)
    | (.lookupFailed, oracle, s) => (.error (lookupError token.text), oracle, s)
  else (.ok (some (stage.stemmed token)), oracle, s)

/-- The sink that stems or drops each token and hands those that are left on to `sink`. -/
def relay (access : Access S L σ) (stage : Stage) (suppress : Bool) (sink : Sink σ) :
    Sink (Oracle S L × σ) := fun token (oracle, s) =>
  match stage.refine access suppress token oracle s with
  | (.error e, oracle, s) => (.error e, oracle, s)
  | (.ok none, oracle, s) => (.ok .proceed, oracle, s)
  | (.ok (some token), oracle, s) =>
    let (answer, s) := sink token s
    (answer, oracle, s)

/-- The text that shows a stage. -/
def describe (stage : Stage) : String :=
  "RewriteStage \x7b cascade: " ++ stage.cascade.describe ++ ", min_token_length: " ++
    Text.decimal stage.leastLength ++ " \x7d"

end Stage

end TextAnalysis
