import Mathlib.Data.List.Induction
import TextAnalysis.Proofs.Settings.Languages
import TextAnalysis.Proofs.Tokenizer.Plain

/-!
# What a registry makes after registrations

The settings of stemming tokenizers are checked when they are registered. After that a tokenizer can be made
of them with any arguments that they accept, and it is the one that the overlaid settings describe. Only a
registration that succeeds changes a registry, so what is made depends on the last of these and on the
arguments at hand.
-/

namespace TextAnalysis

open StopWords

variable {S L : Type}

namespace Registry

/-! ### Names -/

private theorem lookup_insertEntry (name other : String) (factory : Factory S)
    (entries : List (String × Factory S)) :
    (insertEntry name factory entries).lookup other =
      if other = name then some factory else entries.lookup other := by
  have head (name : String) (factory : Factory S) (entries : List (String × Factory S)) :
      ((name, factory) :: entries).lookup other =
        if other = name then some factory else entries.lookup other := by
    by_cases same : other = name
    · rw [if_pos same, same, List.lookup_cons_self]
    · rw [if_neg same, List.lookup_cons, beq_false_of_ne same]
  induction entries with
  | nil => rw [insertEntry, head]
  | cons entry entries ih =>
    obtain ⟨first, f⟩ := entry
    rw [insertEntry]
    by_cases here : name = first
    · rw [if_pos here, head, head, ← here]
      split <;> rfl
    · rw [if_neg here]
      split
      · rw [head]
      · rw [head, ih, head]
        by_cases same : other = first
        · rw [if_pos same, if_pos same, if_neg fun h => here (h.symm.trans same)]
        · rw [if_neg same, if_neg same]

/-- A registered factory is found under its name, and other names keep their factories. -/
theorem find?_register (r : Registry S) (name other : String) (factory : Factory S) :
    (r.register name factory).find? other = if other = name then some factory else r.find? other :=
  lookup_insertEntry name other factory r.entries

/-- The plain registry has no other factories than the plain ones, so nothing is built over anything else. -/
theorem build_plain_of_unknown {name : String} (unknown : ∀ kind : Plain, kind.name ≠ name) (settings : Settings)
    (store : S) :
    (plain : Registry S).build (L := L) settings store (some name) =
      .error (.configuration ("delegate tokenizer '" ++ name ++ "' is not registered")) := by
  have noUnicode : name ≠ UnicodeWords.name := (unknown .unicode).symm
  have noAscii : name ≠ AsciiWords.name := (unknown .ascii).symm
  have absent : (plain : Registry S).find? name = none := by
    rw [plain, find?_register, if_neg noAscii, find?_register, if_neg noUnicode]
    rfl
  have usual : (plain : Registry S).innerFactory Factory.defaultInner = .ok .unicode := rfl
  rw [build, stemmingFactory, usual]
  dsimp only
  rw [innerFactory, absent]
  rfl

/-! ### Calls -/

/-- What may be asked of a registry: that stemming tokenizers of some settings be registered, that a
tokenizer be made, or that one be given up. -/
inductive Call (S L : Type) where
  | registerStemming (settings : Settings) (store : S)
  | create (name : String) (arguments : List String)
  | destroy (t : Tokenizer S L)

/-- What a call is answered, with the tokenizer if one is made, and what becomes of the registry. -/
def perform (r : Registry S) : Call S L → Except Error (Option (Tokenizer S L)) × Registry S
  | .registerStemming settings store =>
    match r.registerStemming settings store with
    | .ok r' => (.ok none, r')
    | .error e => (.error e, r)
  | .create name arguments => ((r.create name arguments).map some, r)
  | .destroy _ => (.ok none, r)

/-- The registry of the two plain tokenizers after calls. -/
def after (calls : List (Call S L)) : Registry S := calls.foldl (fun r call => (r.perform call).2) plain

/-- The settings and the store of a registration of known languages. -/
def Call.registration? : Call S L → Option (Settings × S)
  | .registerStemming settings store => settings.resolve.toOption.map fun _ => (settings, store)
  | _ => none

private theorem Call.exists_resolve_of_registration? {call : Call S L} {settings : Settings} {store : S}
    (registration : call.registration? = some (settings, store)) :
    ∃ languages, settings.resolve = .ok languages := by
  cases call with
  | registerStemming settings' store' =>
    obtain ⟨languages, known, same⟩ := Option.map_eq_some_iff.mp registration
    cases same
    cases resolved : settings.resolve with
    | error e => rw [resolved] at known; cases known
    | ok languages => exact ⟨languages, rfl⟩
  | create name arguments => cases registration
  | destroy t => cases registration

/-- The settings and the store of the last registration of known languages. -/
def lastRegistration? (calls : List (Call S L)) : Option (Settings × S) :=
  (calls.filterMap Call.registration?).getLast?

/-- The factory of the stemming tokenizers of some settings. -/
private def registered (registration : Settings × S) : Factory S :=
  .stemming registration.1 registration.2 Plain.unicode.name Plain.unicode.factory

private theorem stemmingName_ne (kind : Plain) : kind.name ≠ Tokenizer.stemmingName := by
  cases kind <;> decide

/-- Where the Unicode tokenizer is found, known languages are all that a registration over it needs. -/
theorem registerStemming_of_find? {r : Registry S}
    (unicode : r.find? Plain.unicode.name = some Plain.unicode.factory) (settings : Settings) (store : S) :
    r.registerStemming settings store =
      settings.resolve.map fun _ =>
        r.register Tokenizer.stemmingName
          (.stemming settings store Plain.unicode.name Plain.unicode.factory) := by
  rw [registerStemming, (stemmingFactory_of_find? unicode settings store).1]
  cases settings.resolve <;> rfl

section Step

variable {r : Registry S} (plainFactories : ∀ kind : Plain, r.find? kind.name = some kind.factory)
include plainFactories

/-- Where both plain factories are at hand, known languages are all that a registration needs. -/
private theorem registerStemming_eq (settings : Settings) (store : S) :
    r.registerStemming settings store =
      settings.resolve.map fun _ => r.register Tokenizer.stemmingName (registered (settings, store)) :=
  registerStemming_of_find? (plainFactories .unicode) settings store

/-- A registration of known languages is what changes a registry. -/
private theorem perform_snd (call : Call S L) :
    (r.perform call).2 =
      match call.registration? with
      | some registration => r.register Tokenizer.stemmingName (registered registration)
      | none => r := by
  cases call with
  | registerStemming settings store =>
    rw [perform, registerStemming_eq plainFactories, Call.registration?]
    cases settings.resolve <;> rfl
  | create name arguments => rfl
  | destroy t => rfl

end Step

/-- After any calls both plain factories are at hand, and under the name of the stemming tokenizers stands
the last registration. -/
private theorem find?_after (calls : List (Call S L)) :
    (∀ kind : Plain, (after calls).find? kind.name = some kind.factory) ∧
      (after calls).find? Tokenizer.stemmingName = (lastRegistration? calls).map registered := by
  induction calls using List.reverseRecOn with
  | nil => exact ⟨find?_plain, rfl⟩
  | append_singleton calls call ih =>
    obtain ⟨plainFactories, stemming⟩ := ih
    have last : after (calls ++ [call]) = ((after calls).perform call).2 := List.foldl_concat ..
    have registrations : lastRegistration? (calls ++ [call]) =
        call.registration?.or (lastRegistration? calls) := by
      rw [lastRegistration?, List.filterMap_append, List.getLast?_append, List.filterMap_cons]
      cases call.registration? <;> rfl
    rw [last, registrations, perform_snd plainFactories]
    cases call.registration? with
    | none => exact ⟨plainFactories, stemming⟩
    | some registration =>
      constructor
      · intro kind
        rw [find?_register, if_neg (stemmingName_ne kind), plainFactories]
      · rw [find?_register, if_pos rfl]
        rfl

end Registry

/-! ### What is made -/

/-- Tokenizers are made of the settings as the arguments overlay them, over the plain ones of a kind. Nothing
fails but the overlay. -/
structure MakesOverlaid (settings : Settings) (store : S) (kind : Plain)
    (make : List String → Except Error (Tokenizer S L)) : Prop where
  /-- Arguments that are not accepted are refused for that reason. -/
  refuses : ∀ {arguments e overlaid}, settings.applyArguments arguments = (.error e, overlaid) →
    make arguments = .error e
  /-- Arguments that are accepted give the plain tokenizer that the overlaid settings describe, in a stage of
  their languages and least length, with an oracle that has not been asked. -/
  makes : ∀ {arguments overlaid}, settings.applyArguments arguments = (.ok (), overlaid) →
    ∃ cascade : Cascade, overlaid.languages.mapM Language.parse = .ok cascade.languages ∧
      make arguments =
        .ok (.stemming (kind.tokenizer overlaid) ⟨cascade, overlaid.minTokenLength⟩ { store })

/-- A factory of known languages over a plain one makes tokenizers of the overlaid settings. -/
theorem Factory.makesOverlaid_stemming {settings : Settings} {languages : List Language}
    (known : settings.resolve = .ok languages) (store : S) (kind : Plain) :
    MakesOverlaid settings store kind
      (Factory.create (L := L) (.stemming settings store kind.name kind.factory)) where
  refuses refused := by rw [create, refused]
  makes accepted := by
    obtain ⟨languages', known'⟩ := Settings.exists_resolve_of_applyArguments known accepted
    obtain ⟨cascade, found, rfl⟩ := Settings.cascade_of_resolve known'
    refine ⟨cascade, (Settings.resolve_eq_ok_iff.mp known').2, ?_⟩
    rw [create, accepted]
    dsimp only
    rw [kind.wrap_factory, found]
    rfl

namespace Registry

/-- After any calls of a registry that began with the plain tokenizers, a call that fails changes nothing, and
a registration succeeds exactly if its languages are known. Until one has, no stemming tokenizer can be made.
From then on they are made of the settings that were registered last, as the arguments of each one overlay
them, over the Unicode tokenizer. Factories over a tokenizer of either kind that are made of known languages
in between make theirs in the same way. -/
theorem create_after_calls (calls : List (Call S L)) :
    (∀ (call : Call S L) e, ((after calls).perform call).1 = .error e →
      ((after calls).perform call).2 = after calls) ∧
    (∀ settings store, ((after calls).perform (.registerStemming settings store : Call S L)).1 =
      settings.resolve.map fun _ => none) ∧
    (lastRegistration? calls = none → ∀ arguments,
      (after calls).create (L := L) Tokenizer.stemmingName arguments =
        .error (.configuration ("no such tokenizer: " ++ Tokenizer.stemmingName))) ∧
    (∀ settings store, lastRegistration? calls = some (settings, store) →
      MakesOverlaid settings store .unicode
        ((after calls).create (L := L) Tokenizer.stemmingName)) ∧
    ∀ settings languages store, settings.resolve = .ok languages → ∀ kind : Plain,
      ∃ factory, (after calls).stemmingFactory settings store (some kind.name) = .ok factory ∧
        MakesOverlaid settings store kind (factory.create (L := L)) := by
  obtain ⟨plainFactories, stemming⟩ := find?_after calls
  refine ⟨?_, ?_, ?_, ?_, ?_⟩
  · intro call e failed
    cases call with
    | registerStemming settings store =>
      rw [perform, registerStemming_eq plainFactories] at failed ⊢
      cases known : settings.resolve with
      | error e => rfl
      | ok languages => rw [known] at failed; cases failed
    | create name arguments => rfl
    | destroy t => rfl
  · intro settings store
    rw [perform, registerStemming_eq plainFactories]
    cases settings.resolve <;> rfl
  · intro none arguments
    rw [create, stemming, none]
    rfl
  · intro settings store last
    have made : (after calls).create (L := L) Tokenizer.stemmingName =
        (registered (settings, store)).create := by
      funext arguments
      rw [create, stemming, last]
      rfl
    obtain ⟨call, -, registration⟩ := List.mem_filterMap.mp (List.mem_of_getLast? last)
    obtain ⟨languages, known⟩ := Call.exists_resolve_of_registration? registration
    rw [made]
    exact Factory.makesOverlaid_stemming known store .unicode
  · intro settings languages store known kind
    exact ⟨_, (stemmingFactory_eq plainFactories settings store kind).2,
      Factory.makesOverlaid_stemming known store kind⟩

/-- A registration of languages that are not known does not count. -/
example :
    let calls : List (Call String Unit) :=
      [.registerStemming {} "first", .create Tokenizer.stemmingName ["min_token_length", "4"],
        .registerStemming { languages := ["klingon"] } "second"]
    lastRegistration? calls = some ({}, "first") := by
  rfl

end Registry

end TextAnalysis
