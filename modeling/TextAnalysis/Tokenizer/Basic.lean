import TextAnalysis.StopWords.Stage
import TextAnalysis.Tokenizer.AsciiWords
import TextAnalysis.Tokenizer.UnicodeWords

/-!
# Tokenizers

A tokenizer splits a text into words, or delivers fixed tokens, or passes the tokens of another
tokenizer through a stemming stage. The last kind has a stop-word oracle, whose state outlives a call.
-/

namespace TextAnalysis

open StopWords

/-- Tokens that are delivered whatever the text, after which the call may fail. -/
structure FixedTokens where
  name : String
  tokens : List Token
  failure : Option Error := none
deriving Repr, DecidableEq

/-- How a call ends that has delivered all fixed tokens. -/
def FixedTokens.ending (t : FixedTokens) : Except Error Flow :=
  match t.failure with
  | some e => .error e
  | none => .ok .proceed

/-- A tokenizer whose stop-word stores are of type `S`, with lookups of type `L`. -/
inductive Tokenizer (S L : Type) where
  /-- Words of letters, numbers and private-use characters. -/
  | unicode (t : UnicodeWords)
  /-- Words of ASCII letters and digits and of all other characters outside ASCII. -/
  | ascii (t : AsciiWords)
  /-- Fixed tokens. -/
  | fixed (t : FixedTokens)
  /-- The tokens of another tokenizer, stemmed and filtered. -/
  | stemming (inner : Tokenizer S L) (stage : Stage) (oracle : Oracle S L)
deriving DecidableEq

namespace Tokenizer

variable {S L σ : Type}

/-- The name of the tokenizers that stem. -/
def stemmingName : String := "snowball"

/-- The name of a tokenizer. -/
def name : Tokenizer S L → String
  | unicode _ => UnicodeWords.name
  | ascii _ => AsciiWords.name
  | fixed t => t.name
  | stemming .. => stemmingName

/-- Hand the tokens of a text to a sink. The result is whether the sink wanted more to the end, or
the error of the sink or of the tokenizer. -/
def tokenize (text : String) (mode : Mode) : {σ : Type} → Tokenizer S L → Access S L σ → Sink σ → σ →
    Except Error Flow × Tokenizer S L × σ
  | _, unicode t, _, sink, s =>
    let (answer, s) := t.runRule.tokenize sink text s
    (answer, unicode t, s)
  | _, ascii t, _, sink, s =>
    let (answer, s) := t.runRule.tokenize sink text s
    (answer, ascii t, s)
  | _, fixed t, _, sink, s =>
    let (answer, s) := deliver sink t.ending t.tokens s
    (answer, fixed t, s)
  | _, stemming inner stage oracle, access, sink, s =>
    let (answer, inner, oracle, s) :=
      tokenize text mode inner (access.beside (Oracle S L))
        (stage.relay access (suppressesStopWords mode text) sink) (oracle.beginSession, s)
    (answer, stemming inner stage oracle, s)

/-- All tokens of a text. -/
def collect (t : Tokenizer S L) (access : Access S L σ) (text : String) (mode : Mode) (s : σ) :
    Except Error (List Token) × Tokenizer S L × σ :=
  let (answer, t, kept, s) :=
    t.tokenize text mode (access.beside (List Token)) Sink.collect ([], s)
  match answer with
  | .ok _ => (.ok kept.reverse, t, s)
  | .error e => (.error e, t, s)

/-- Whether a tokenizer that stems holds a lookup of stop words. -/
def isConnected : Tokenizer S L → Bool
  | stemming _ _ oracle => oracle.isConnected
  | _ => false

end Tokenizer

end TextAnalysis
