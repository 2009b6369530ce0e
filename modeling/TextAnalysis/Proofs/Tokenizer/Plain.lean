import TextAnalysis.Proofs.Tokenizer.Arguments
import TextAnalysis.Proofs.Tokenizer.Runs
import TextAnalysis.Tokenizer.Registry

/-!
# Plain tokenizers and what is built over them

A plain tokenizer cuts a text into the runs of a rule, does not change in a call, and consults no stop
words. Settings that name known languages always yield a stemming tokenizer over either plain one: the
arguments by which it is told of the settings are understood as they were meant.
-/

namespace TextAnalysis

open StopWords

/-- A character that begins a run of the Unicode tokenizer continues one. -/
theorem UnicodeWords.coherent (t : UnicodeWords) : t.runRule.Coherent := by
  intro c hc
  change t.continuesToken c = true
  change t.isTokenChar c = true at hc
  rw [continuesToken, hc, Bool.true_or]

/-- The same characters begin and continue the runs of the ASCII tokenizer. -/
theorem AsciiWords.coherent (t : AsciiWords) : t.runRule.Coherent := fun _ hc => hc

namespace Tokenizer

variable {S L σ : Type}

/-- The rule of a plain tokenizer. -/
def rule? : Tokenizer S L → Option RunRule
  | unicode t => some t.runRule
  | ascii t => some t.runRule
  | _ => none

/-- The rules of the plain tokenizers are coherent. -/
theorem coherent_of_rule? {t : Tokenizer S L} {rule : RunRule} (h : t.rule? = some rule) :
    rule.Coherent := by
  cases t with
  | unicode t => cases h; exact t.coherent
  | ascii t => cases h; exact t.coherent
  | fixed t => cases h
  | stemming inner stage oracle => cases h

/-- A plain tokenizer delivers the tokens of its rule and stays as it is. -/
theorem tokenize_of_rule? {t : Tokenizer S L} {rule : RunRule} (h : t.rule? = some rule) (text : String)
    (mode : Mode) (access : Access S L σ) (sink : Sink σ) (s : σ) :
    t.tokenize text mode access sink s =
      ((deliver sink (.ok .proceed) (rule.tokens text) s).1, t,
        (deliver sink (.ok .proceed) (rule.tokens text) s).2) := by
  rw [← RunRule.tokenize_eq_deliver (coherent_of_rule? h)]
  cases t with
  | unicode t => cases h; rfl
  | ascii t => cases h; rfl
  | fixed t => cases h
  | stemming inner stage oracle => cases h

end Tokenizer

/-! ### Settings for plain tokenizers -/

namespace Settings

/-- The characters that settings take into tokens or split at. -/
def overrides (settings : Settings) : Overrides where
  tokenChars := settings.tokenCharacters.toList
  separators := settings.separators.toList

end Settings

/-- The kinds of plain tokenizers. -/
inductive Plain where
  | unicode
  | ascii
deriving Repr, DecidableEq

namespace Plain

variable {S L : Type}

/-- The name under which tokenizers of a kind are made. -/
def name : Plain → String
  | unicode => UnicodeWords.name
  | ascii => AsciiWords.name

/-- The tokenizer of a kind with all that settings say of words. -/
def tokenizer (settings : Settings) : Plain → Tokenizer S L
  | unicode => .unicode ⟨settings.diacritics, settings.overrides⟩
  | ascii => .ascii ⟨settings.overrides⟩

/-- The rule of that tokenizer. -/
def rule (settings : Settings) : Plain → RunRule
  | unicode => (⟨settings.diacritics, settings.overrides⟩ : UnicodeWords).runRule
  | ascii => (⟨settings.overrides⟩ : AsciiWords).runRule

/-- The tokenizer of a kind is a plain one. -/
theorem rule?_tokenizer (kind : Plain) (settings : Settings) :
    (kind.tokenizer settings : Tokenizer S L).rule? = some (kind.rule settings) := by
  cases kind <;> rfl

end Plain

/-- The argument that asks for a treatment of diacritics is understood as that treatment. -/
theorem Diacritics.parse_argument (d : Diacritics) : parse (unquoted d.argument) = .ok d := by
  cases d <;> rfl

/-- A tokenizer that understands which characters to take in and to split at understands the arguments
that settings give for these. -/
private theorem fold_overrideArguments {α : Type} {tokenizer : String}
    {step : α → String → String → Except Error α} (make : Overrides → α)
    (hc : ∀ o value, step (make o) "tokenchars" value = .ok (make (o.addTokenChars (unquoted value))))
    (hs : ∀ o value, step (make o) "separators" value = .ok (make (o.addSeparators (unquoted value))))
    (settings : Settings) :
    foldArguments tokenizer step (make {}) settings.overrideArguments =
      .ok (make settings.overrides) := by
  rw [Settings.overrideArguments, Settings.overrides]
  by_cases ht : settings.tokenCharacters = ""
  · by_cases hp : settings.separators = ""
    · simp [ht, hp, foldArguments]
    · simp [ht, hp, foldArguments, hs, unquoted_singleQuoted, Overrides.addSeparators]
  · by_cases hp : settings.separators = ""
    · simp [ht, hp, foldArguments, hc, unquoted_singleQuoted, Overrides.addTokenChars]
    · simp [ht, hp, foldArguments, hc, hs, unquoted_singleQuoted, Overrides.addTokenChars,
        Overrides.addSeparators]

/-- The Unicode tokenizer understands the arguments that settings give it. -/
theorem UnicodeWords.ofArguments_wordArguments (settings : Settings) :
    ofArguments settings.wordArguments = .ok ⟨settings.diacritics, settings.overrides⟩ := by
  rw [ofArguments, Settings.wordArguments, foldArguments, withArgument, if_pos rfl,
    Diacritics.parse_argument]
  exact fold_overrideArguments (UnicodeWords.mk settings.diacritics) (fun _ _ => rfl) (fun _ _ => rfl)
    settings

/-- The ASCII tokenizer understands the arguments that settings give it. -/
theorem AsciiWords.ofArguments_overrideArguments (settings : Settings) :
    ofArguments settings.overrideArguments = .ok ⟨settings.overrides⟩ :=
  fold_overrideArguments AsciiWords.mk (fun _ _ => rfl) (fun _ _ => rfl) settings

namespace Plain

variable {S L : Type}

/-- The factory of the tokenizers of a kind. -/
def factory : Plain → Factory S
  | unicode => .unicode
  | ascii => .ascii

/-- The factory of a kind understands the arguments that settings give for a wrapped tokenizer. -/
theorem create_factory (kind : Plain) (settings : Settings) :
    (kind.factory : Factory S).create (L := L) (Factory.innerArguments kind.name settings) =
      .ok (kind.tokenizer settings) := by
  cases kind with
  | unicode =>
    change (UnicodeWords.ofArguments settings.wordArguments).map _ = _
    rw [UnicodeWords.ofArguments_wordArguments]
    rfl
  | ascii =>
    change (AsciiWords.ofArguments settings.overrideArguments).map _ = _
    rw [AsciiWords.ofArguments_overrideArguments]
    rfl

/-- Settings that give a cascade, and no others, can be wrapped around a tokenizer of a kind. -/
theorem wrap_factory (kind : Plain) (settings : Settings) (store : S) :
    Factory.wrap settings store kind.name (kind.factory : Factory S).create =
      settings.cascade.map fun cascade =>
        (.stemming (kind.tokenizer settings) ⟨cascade, settings.minTokenLength⟩ { store } :
          Tokenizer S L) := by
  rw [Factory.wrap, create_factory]
  cases settings.cascade <;> rfl

end Plain

namespace Registry

variable {S L : Type}

/-- Where a tokenizer is found under the usual name, it is wrapped unless another one that is found is chosen. -/
theorem stemmingFactory_of_find? {r : Registry S} {usual : Factory S}
    (found : r.find? Factory.defaultInner = some usual) (settings : Settings) (store : S) :
    r.stemmingFactory settings store none = .ok (.stemming settings store Factory.defaultInner usual) ∧
      ∀ name factory, r.find? name = some factory →
        r.stemmingFactory settings store (some name) = .ok (.stemming settings store name factory) := by
  have wrappable {name factory} (found : r.find? name = some factory) : r.innerFactory name = .ok factory := by
    rw [innerFactory, found]
  constructor
  · rw [stemmingFactory, wrappable found]
  · intro name factory foundOther
    rw [stemmingFactory, wrappable found]
    dsimp only
    rw [wrappable foundOther]
    rfl

/-- A registry that has both plain factories under their names wraps tokenizers of either kind. -/
theorem stemmingFactory_eq {r : Registry S}
    (plainFactories : ∀ kind : Plain, r.find? kind.name = some kind.factory) (settings : Settings)
    (store : S) (kind : Plain) :
    r.stemmingFactory settings store none =
        .ok (.stemming settings store Plain.unicode.name Plain.unicode.factory) ∧
      r.stemmingFactory settings store (some kind.name) =
        .ok (.stemming settings store kind.name kind.factory) :=
  have ⟨usual, chosen⟩ := stemmingFactory_of_find? (plainFactories .unicode) settings store
  ⟨usual, chosen kind.name kind.factory (plainFactories kind)⟩

/-- The plain registry has both plain factories. -/
theorem find?_plain (kind : Plain) : (plain : Registry S).find? kind.name = some kind.factory := by
  cases kind <;> rfl

/-- A stemming tokenizer over a plain one can be built exactly from settings that give a cascade. It
wraps the plain tokenizer that the settings describe and has asked for no stop word. -/
theorem build_plain (settings : Settings) (store : S) (kind : Plain) :
    (plain : Registry S).build settings store (some kind.name) =
      settings.cascade.map fun cascade =>
        (.stemming (kind.tokenizer settings) ⟨cascade, settings.minTokenLength⟩ { store } :
          Tokenizer S L) := by
  rw [build, (stemmingFactory_eq find?_plain settings store kind).2]
  exact kind.wrap_factory settings store

/-- What is built over a plain tokenizer is made of the settings alone. -/
theorem of_build_plain {settings : Settings} {store : S} {kind : Plain} {fresh : Tokenizer S L}
    (built : (plain : Registry S).build settings store (some kind.name) = .ok fresh) :
    ∃ cascade, settings.cascade = .ok cascade ∧
      fresh = .stemming (kind.tokenizer settings) ⟨cascade, settings.minTokenLength⟩ { store } := by
  rw [build_plain] at built
  cases hc : settings.cascade with
  | error e => rw [hc] at built; cases built
  | ok cascade =>
    rw [hc] at built
    exact ⟨cascade, rfl, (Except.ok.inj built).symm⟩

end Registry

end TextAnalysis
