import TextAnalysis.Text.Quoted
import TextAnalysis.Tokenizer.Factory

/-!
# Registries

A registry holds factories by name, in the order of the names. To begin with it holds those of the
Unicode and the ASCII tokenizer.
-/

namespace TextAnalysis

open StopWords

/-- Factories by name, in ascending order of the names. -/
structure Registry (S : Type) where
  entries : List (String × Factory S)

namespace Registry

variable {S L : Type}

/-- Put an entry in its place, in that of the entry with the same name if there is one. -/
def insertEntry (name : String) (factory : Factory S) :
    List (String × Factory S) → List (String × Factory S)
  | [] => [(name, factory)]
  | (other, f) :: rest =>
    if name = other then (name, factory) :: rest
    else if name < other then (name, factory) :: (other, f) :: rest
    else (other, f) :: insertEntry name factory rest

/-- The registry with a factory under a name. -/
def register (r : Registry S) (name : String) (factory : Factory S) : Registry S :=
  ⟨insertEntry name factory r.entries⟩

/-- The registry of the two plain tokenizers. -/
def plain : Registry S :=
  ((⟨[]⟩ : Registry S).register UnicodeWords.name .unicode).register AsciiWords.name .ascii

/-- The factory with the given name. -/
def find? (r : Registry S) (name : String) : Option (Factory S) := r.entries.lookup name

/-- The names of the factories, in ascending order. -/
def names (r : Registry S) : List String := r.entries.map Prod.fst

/-- Make a tokenizer with the factory of the given name. -/
def create (r : Registry S) (name : String) (arguments : List String) :
    Except Error (Tokenizer S L) :=
  match r.find? name with
  | some factory => factory.create arguments
  | none => .error (.configuration ("no such tokenizer: " ++ name))

/-- The factory of the tokenizers to be wrapped. -/
def innerFactory (r : Registry S) (name : String) : Except Error (Factory S) :=
  match r.find? name with
  | some factory => .ok factory
  | none => .error (.configuration ("delegate tokenizer '" ++ name ++ "' is not registered"))

/-- The factory of stemming tokenizers over those of the given name. That of the usual name must be
there even when another is chosen. -/
def stemmingFactory (r : Registry S) (settings : Settings) (store : S) (inner : Option String) :
    Except Error (Factory S) :=
  match r.innerFactory Factory.defaultInner with
  | .error e => .error e
  | .ok usual =>
    match inner with
    | none => .ok (.stemming settings store Factory.defaultInner usual)
    | some name => (r.innerFactory name).map (.stemming settings store name)

/-- Make a stemming tokenizer from settings. -/
def build (r : Registry S) (settings : Settings) (store : S) (inner : Option String) :
    Except Error (Tokenizer S L) :=
  match r.stemmingFactory settings store inner with
  | .error e => .error e
  | .ok factory => factory.create []

/-- The registry with stemming tokenizers of the given settings under their usual name. The settings
are checked first. -/
def registerStemming (r : Registry S) (settings : Settings) (store : S) :
    Except Error (Registry S) :=
  match settings.resolve with
  | .error e => .error e
  | .ok _ => (r.stemmingFactory settings store none).map (r.register Tokenizer.stemmingName)

/-- The text that shows a registry. -/
def describe (r : Registry S) : String :=
  "TokenizerRegistry \x7b names: [" ++ ", ".intercalate (r.names.map Text.quoted) ++ "] \x7d"

end Registry

end TextAnalysis
