import TextAnalysis.Error

/-!
# Stop-word oracles

An oracle answers whether a word is a stop word. It connects to its store when it is first asked, and
keeps the lookup that it obtained. When connecting or looking up fails, every answer is that the
lookup failed, until a new session begins and the oracle may connect again.
-/

namespace TextAnalysis.StopWords

/-- The ways to consult stores of type `S` within a larger state `σ`. Connecting to a store gives a
lookup, which can be asked for words. -/
structure Access (S L σ : Type) where
  connect : S → σ → Except Error L × σ
  contains : L → String → σ → Except Error Bool × σ

/-- The same ways to consult stores, where the state has one part more. -/
def Access.beside {S L σ : Type} (τ : Type) (access : Access S L σ) : Access S L (τ × σ) where
  connect store | (t, s) => let (r, s) := access.connect store s; (r, t, s)
  contains lookup word | (t, s) => let (r, s) := access.contains lookup word s; (r, t, s)

/-- What an oracle holds of its store. -/
inductive Handle (L : Type) where
  | pending
  | connected (lookup : L)
  | failed
deriving Repr, DecidableEq

/-- What an oracle says of a word. -/
inductive Answer where
  | yes
  | no
  | lookupFailed
deriving Repr, DecidableEq

/-- A stop-word oracle over a store. -/
structure Oracle (S L : Type) where
  store : S
  handle : Handle L := .pending
deriving Repr, DecidableEq

namespace Oracle

variable {S L σ : Type}

/-- Start a new session, in which a failed oracle may connect again. -/
def beginSession (o : Oracle S L) : Oracle S L :=
  match o.handle with
  | .failed => { o with handle := .pending }
  | _ => o

/-- Whether the oracle holds a lookup. -/
def isConnected (o : Oracle S L) : Bool :=
  match o.handle with
  | .connected _ => true
  | _ => false

/-- Connect to the store if that has not been tried in this session. -/
def establish (access : Access S L σ) (o : Oracle S L) (s : σ) : Oracle S L × σ :=
  match o.handle with
  | .pending =>
    match access.connect o.store s with
    | (.ok lookup, s) => ({ o with handle := .connected lookup }, s)
    | (.error _, s) => ({ o with handle := .failed }, s)
  | _ => (o, s)

/-- Ask for a word through the lookup, if there is one. A lookup that fails is given up. -/
def consult (access : Access S L σ) (o : Oracle S L) (word : String) (s : σ) :
    Answer × Oracle S L × σ :=
  match o.handle with
  | .connected lookup =>
    match access.contains lookup word s with
    | (.ok true, s) => (.yes, o, s)
    | (.ok false, s) => (.no, o, s)
    | (.error _, s) => (.lookupFailed, { o with handle := .failed }, s)
  | _ => (.lookupFailed, o, s)

/-- Ask whether a word is a stop word. -/
def ask (access : Access S L σ) (o : Oracle S L) (word : String) (s : σ) :
    Answer × Oracle S L × σ :=
  let (o, s) := o.establish access s
  o.consult access word s

end Oracle

end TextAnalysis.StopWords
