import TextAnalysis.Settings.Arguments
import TextAnalysis.Tokenizer.Basic

/-!
# Factories

A factory makes tokenizers from construction arguments. A factory of stemming tokenizers has base
settings, which the arguments overlay, and the factory of the tokenizers that it wraps.
-/

namespace TextAnalysis

open StopWords

/-- A maker of tokenizers, with stop-word stores of type `S`. -/
inductive Factory (S : Type) where
  /-- Makes Unicode tokenizers. -/
  | unicode
  /-- Makes ASCII tokenizers. -/
  | ascii
  /-- Makes tokenizers of fixed tokens, whatever the arguments. -/
  | fixed (t : FixedTokens)
  /-- Makes nothing. -/
  | failing (e : Error)
  /-- Makes stemming tokenizers over those that `inner`, known as `innerName`, makes. -/
  | stemming (settings : Settings) (store : S) (innerName : String) (inner : Factory S)
deriving DecidableEq

namespace Factory

variable {S L : Type}

/-- The name of the tokenizer that is wrapped unless another is chosen. -/
def defaultInner : String := UnicodeWords.name

/-- The arguments for a wrapped tokenizer of the given name. Only the usual one is told of
diacritics. -/
def innerArguments (innerName : String) (settings : Settings) : List String :=
  if innerName = defaultInner then settings.wordArguments else settings.overrideArguments

/-- Wrap a tokenizer that is made by `make`, with all settings given. -/
def wrap (settings : Settings) (store : S) (innerName : String)
    (make : List String → Except Error (Tokenizer S L)) : Except Error (Tokenizer S L) :=
  match settings.cascade with
  | .error e => .error e
  | .ok cascade =>
    match make (innerArguments innerName settings) with
    | .error e => .error e
    | .ok inner => .ok (.stemming inner ⟨cascade, settings.minTokenLength⟩ { store })

/-- Make a tokenizer. -/
def create : Factory S → List String → Except Error (Tokenizer S L)
  | unicode, arguments => (UnicodeWords.ofArguments arguments).map .unicode
  | ascii, arguments => (AsciiWords.ofArguments arguments).map .ascii
  | fixed t, _ => .ok (.fixed t)
  | failing e, _ => .error e
  | stemming settings store innerName inner, arguments =>
    match settings.applyArguments arguments with
    | (.error e, _) => .error e
    | (.ok (), settings) => wrap settings store innerName inner.create

end Factory

end TextAnalysis
