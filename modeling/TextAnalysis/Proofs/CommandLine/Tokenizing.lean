import TextAnalysis.CommandLine.Commands
import TextAnalysis.Proofs.Settings.Environment
import TextAnalysis.Proofs.Tokenizer.Layers
import TextAnalysis.Proofs.Tokenizer.Registration

/-!
# The command that tokenizes

The settings of a request come from four sources, field by field: the request itself, the environment, the file
and the usual settings. If nothing is wrong with the sources, the languages and the wrapped tokenizer, the tokens
that are reported are those of the tokenizer that the settings describe, each with its piece of the text.
-/

namespace TextAnalysis.CommandLine

open Settings StopWords

/-! ### Settings -/

/-- The settings of a request: each field is what the request gives, or else the environment, or else the
file, and otherwise as usual. An empty list of languages in the request gives nothing, but one in the
environment does. -/
inductive Configures (lookup : String → Option String) (files : Files) (request : TokenizeRequest) :
    Settings → Prop
  | configures {file environment : Draft} (gives : FileGives files request.config (.ok file))
      (sets : Variables lookup environment) :
      Configures lookup files request
        { languages :=
            if request.languages ≠ [] then request.languages
            else (environment.languages.or file.languages).getD ["english"]
          removeDiacritics := (environment.removeDiacritics.or file.removeDiacritics).getD true
          tokenCharacters := (environment.tokenCharacters.or file.tokenCharacters).getD ""
          separators := (environment.separators.or file.separators).getD ""
          minTokenLength :=
            (request.minTokenLength.or (environment.minTokenLength.or file.minTokenLength)).getD 3 }

/-- Why a request has no settings: the file cannot be read, or a variable is malformed, even one that the
request would override. -/
inductive SourceFault (lookup : String → Option String) (files : Files) (request : TokenizeRequest) :
    Error → Prop
  | file {e : Error} (fails : FileGives files request.config (.error e)) : SourceFault lookup files request e
  | environment {e : Error} (malformed : Malformed lookup e) : SourceFault lookup files request e

section Load

variable {lookup : String → Option String} {files : Files} {request : TokenizeRequest}

/-- The settings at the bottom are the usual ones under what is given for the file. -/
theorem baseSettings_eq {given : Except Error Draft} (gives : FileGives files request.config given) :
    baseSettings files request = given.map ofDraft := by
  unfold baseSettings
  cases config : request.config with
  | none =>
    rw [config] at gives
    cases gives
    rfl
  | some path =>
    rw [config] at gives
    exact gives.ofFile_eq

theorem loadSettings_of_refused {file : Draft} {e : Error} (gives : FileGives files request.config (.ok file))
    (refused : ((ofDraft file).applyEnvironment lookup).1 = .error e) :
    loadSettings lookup files request = .error e := by
  have base := baseSettings_eq gives
  unfold loadSettings
  simp only [base, Except.map, bind, Except.bind]
  split
  · next applied =>
    rw [applied] at refused
    exact congrArg Except.error (Except.error.inj refused)
  · next applied =>
    rw [applied] at refused
    cases refused

/-- Where nothing is wrong with the sources, the settings still need known languages. -/
theorem Configures.loadSettings_eq {settings : Settings}
    (configures : Configures lookup files request settings) :
    loadSettings lookup files request = settings.resolve.map fun _ => settings := by
  cases configures with
  | @configures file environment gives sets =>
    have base := baseSettings_eq gives
    have applied := sets.applyEnvironment_eq (ofDraft file)
    unfold loadSettings
    simp only [base, Except.map, bind, Except.bind, applied]
    simp only [TokenizeRequest.overlay, withDraft, ofDraft, Option.getD_or, ne_eq, ite_not]
    rfl

/-- There are settings for the request, or something is wrong with the sources and that is the error. -/
theorem configures_or_sourceFault (lookup : String → Option String) (files : Files)
    (request : TokenizeRequest) :
    (∃ settings, Configures lookup files request settings) ∨
      ∃ e, SourceFault lookup files request e ∧ loadSettings lookup files request = .error e := by
  obtain ⟨given, gives⟩ := exists_fileGives files request.config
  cases given with
  | error e =>
    refine .inr ⟨e, .file gives, ?_⟩
    unfold loadSettings
    rw [baseSettings_eq gives]
    rfl
  | ok file =>
    obtain ⟨environment, sets⟩ | ⟨e, malformed, refuses⟩ := variables_or_malformed lookup
    · exact .inl ⟨_, .configures gives sets⟩
    · exact .inr ⟨e, .environment malformed, loadSettings_of_refused gives (refuses _)⟩

/-- Where something is wrong with a source there are no settings. -/
theorem SourceFault.not_configures {e : Error} (fault : SourceFault lookup files request e)
    (settings : Settings) : ¬ Configures lookup files request settings := by
  rintro ⟨gives, sets⟩
  cases fault with
  | file fails =>
    have both := (baseSettings_eq fails).symm.trans (baseSettings_eq gives)
    cases both
  | environment malformed => exact sets.not_malformed e malformed

end Load

/-! ### Tokenizers -/

/-- What keeps the text of a request from being tokenized. -/
inductive Obstacle (lookup : String → Option String) (files : Files) (request : TokenizeRequest) :
    Error → Prop
  | source {e : Error} (fault : SourceFault lookup files request e) : Obstacle lookup files request e
  | languages {settings : Settings} {e : Error} (configures : Configures lookup files request settings)
      (fault : LanguageFault settings e) : Obstacle lookup files request e
  | inner (unknown : ∀ kind : Plain, kind.name ≠ request.inner) :
      Obstacle lookup files request
        (.configuration ("delegate tokenizer '" ++ request.inner ++ "' is not registered"))

section Prepare

variable {lookup : String → Option String} {files : Files} {request : TokenizeRequest}

theorem prepare_of_loadSettings_error {e : Error} (failed : loadSettings lookup files request = .error e) :
    prepare lookup files request = .error e := by
  unfold prepare
  rw [failed]
  rfl

/-- Settings of known languages over a plain tokenizer make the tokenizer that they describe. -/
theorem prepare_eq_ok {settings : Settings} {cascade : Cascade} {kind : Plain}
    (loaded : loadSettings lookup files request = .ok settings) (found : settings.cascade = .ok cascade)
    (named : kind.name = request.inner) :
    prepare lookup files request =
      .ok (settings,
        .stemming (kind.tokenizer settings) ⟨cascade, settings.minTokenLength⟩
          { store := (storeOf files request).1 }) := by
  unfold prepare
  rw [loaded, ← named]
  simp only [Registry.build_plain, found, bind, Except.bind, Except.map]

theorem prepare_of_unknown {settings : Settings} (loaded : loadSettings lookup files request = .ok settings)
    (unknown : ∀ kind : Plain, kind.name ≠ request.inner) :
    prepare lookup files request =
      .error (.configuration ("delegate tokenizer '" ++ request.inner ++ "' is not registered")) := by
  unfold prepare
  rw [loaded]
  simp only [Registry.build_plain_of_unknown unknown, bind, Except.bind]

/-- A tokenizer is made for the request, or an obstacle is met and that is the error. -/
theorem prepare_cases (lookup : String → Option String) (files : Files) (request : TokenizeRequest) :
    (∃ (settings : Settings) (kind : Plain) (cascade : Cascade),
      Configures lookup files request settings ∧ kind.name = request.inner ∧
        settings.languages.mapM Language.parse = .ok cascade.languages ∧
        prepare lookup files request =
          .ok (settings,
            .stemming (kind.tokenizer settings) ⟨cascade, settings.minTokenLength⟩
              { store := (storeOf files request).1 })) ∨
      ∃ e, Obstacle lookup files request e ∧ prepare lookup files request = .error e := by
  obtain ⟨settings, configures⟩ | ⟨e, fault, failed⟩ :=
    configures_or_sourceFault lookup files request
  · have loaded := configures.loadSettings_eq
    obtain ⟨languages, known, -⟩ | ⟨e, fault, unresolved⟩ := settings.resolve_cases
    · rw [known] at loaded
      by_cases plain : ∃ kind : Plain, kind.name = request.inner
      · obtain ⟨kind, named⟩ := plain
        obtain ⟨cascade, found, rfl⟩ := cascade_of_resolve known
        exact .inl ⟨settings, kind, cascade, configures, named, (resolve_eq_ok_iff.mp known).2,
          prepare_eq_ok loaded found named⟩
      · have unknown := not_exists.mp plain
        exact .inr ⟨_, .inner unknown, prepare_of_unknown loaded unknown⟩
    · rw [unresolved] at loaded
      exact .inr ⟨e, .languages configures fault, prepare_of_loadSettings_error loaded⟩
  · exact .inr ⟨e, .source fault, prepare_of_loadSettings_error failed⟩

/-- No obstacle is passed over. -/
theorem Obstacle.exists_error {e : Error} (obstacle : Obstacle lookup files request e) :
    ∃ e', prepare lookup files request = .error e' := by
  cases loaded : loadSettings lookup files request with
  | error e' => exact ⟨e', prepare_of_loadSettings_error loaded⟩
  | ok settings =>
    cases obstacle with
    | source fault =>
      obtain ⟨settings', configures⟩ | ⟨e', -, failed⟩ :=
        configures_or_sourceFault lookup files request
      · exact absurd configures (fault.not_configures settings')
      · rw [failed] at loaded
        cases loaded
    | @languages settings' _ configures fault =>
      rw [configures.loadSettings_eq] at loaded
      obtain ⟨languages, -, none⟩ | ⟨e', -, unresolved⟩ := settings'.resolve_cases
      · exact absurd fault (none _)
      · rw [unresolved] at loaded
        cases loaded
    | inner unknown => exact ⟨_, prepare_of_unknown loaded unknown⟩

end Prepare

/-! ### Tokens -/

/-- The mode that stands for a request: that of documents, of queries, or of queries whose last term may go
on. -/
def TokenizeRequest.mode (request : TokenizeRequest) : Mode :=
  if request.partialTerm then Mode.forQuery.union .forPrefix
  else if request.query then .forQuery
  else .forDocument

/-- Where the last term may go on stop words stay, be the text that of a query or not. -/
theorem suppressesStopWords_modeOf (request : TokenizeRequest) :
    suppressesStopWords (modeOf request) request.text = suppressesStopWords request.mode request.text := by
  unfold modeOf TokenizeRequest.mode
  cases request.partialTerm
  · rfl
  · cases request.query <;> rfl

/-- The record tells the text and the place of the token, and the piece of the input at that place. -/
structure IsRecordOf (input : String) (token : Token) (record : TokenRecord) : Prop where
  text_eq : record.text = token.text
  start_eq : record.start = token.start
  stop_eq : record.stop = token.stop
  source_eq : Text.slice? input token.start token.stop = some record.source

/-- Tokens that stand in the input have records. -/
theorem forall₂_isRecordOf {input : String} {all tokens : List Token} (placed : Placed input all)
    (sublist : tokens.Sublist all) :
    List.Forall₂ (IsRecordOf input) tokens (tokens.map (recordOf input)) := by
  refine List.forall₂_map_right_iff.mpr (List.forall₂_same.mpr fun token mem => ⟨rfl, rfl, rfl, ?_⟩)
  obtain ⟨source, here, -⟩ := placed.source token (sublist.subset mem)
  rw [recordOf, here, Option.getD_some]
  exact here

section Run

variable {lookup : String → Option String} {files : Files} {request : TokenizeRequest}

/-- What is reported of the tokens, which may be collected in the mode that stands for the request. -/
theorem tokenizeText_eq {settings : Settings} {kind : Plain} {stage : Stage} {oracle : Oracle Store Lookup}
    (prepared : prepare lookup files request =
      .ok (settings, .stemming (kind.tokenizer settings) stage oracle)) :
    tokenizeText lookup files request =
      ((Tokenizer.stemming (kind.tokenizer settings) stage oracle).collect (storeOf files request).2.access
          request.text request.mode ()).1.map fun tokens =>
        .tokens settings.languages (suppressesStopWords request.mode request.text)
          (tokens.map (recordOf request.text)) := by
  have plain := kind.rule?_tokenizer (S := Store) (L := Lookup) settings
  have same := suppressesStopWords_modeOf request
  unfold tokenizeText
  rw [prepared]
  simp only [bind, Except.bind]
  rw [Tokenizer.collect_stemming_congr plain same, same]
  split
  · next collected => rw [collected]; rfl
  · next collected => rw [collected]; rfl

/-- An invocation that tokenizes shows its report under the text, and changes no file. -/
theorem run_tokenize (lookup : String → Option String) (files : Files) (request : TokenizeRequest)
    (options : Invocation) :
    let i := { options with command := .tokenize request }
    i.run lookup files =
      ⟨(tokenizeText lookup files request).map fun report =>
        report.show i ("Tokens for " ++ Text.quoted request.text), files⟩ := by
  intro i
  unfold Invocation.run Invocation.runWith
  simp only [i, Command.performWith]
  cases tokenizeText lookup files request <;> rfl

variable (options : Invocation)

theorem output_of_prepare_error {e : Error} (failed : prepare lookup files request = .error e) :
    ({ options with command := .tokenize request }.run lookup files).output = .error e := by
  rw [run_tokenize, tokenizeText, failed]
  rfl

/-- The output of an invocation whose tokenizer can be made. -/
theorem output_of_prepare {settings : Settings} {kind : Plain} {stage : Stage} {oracle : Oracle Store Lookup}
    (prepared : prepare lookup files request =
      .ok (settings, .stemming (kind.tokenizer settings) stage oracle)) :
    let i := { options with command := .tokenize request }
    let collected := ((Tokenizer.stemming (kind.tokenizer settings) stage oracle).collect
      (storeOf files request).2.access request.text request.mode ()).1
    (∀ e, collected = .error e → (i.run lookup files).output = .error e) ∧
      ∀ tokens, collected = .ok tokens →
        ∃ records, List.Forall₂ (IsRecordOf request.text) tokens records ∧
          (i.run lookup files).output =
            .ok ((Report.tokens settings.languages (suppressesStopWords request.mode request.text)
              records).show i ("Tokens for " ++ Text.quoted request.text)) := by
  intro i
  have ran := run_tokenize lookup files request options
  rw [tokenizeText_eq prepared] at ran
  constructor
  · intro e failed
    rw [ran, failed]
    rfl
  · intro tokens found
    refine ⟨tokens.map (recordOf request.text), ?_, ?_⟩
    · have plain := kind.rule?_tokenizer (S := Store) (L := Lookup) settings
      have placed := ((kind.rule settings).placed_tokens request.text).stems stage
      exact forall₂_isRecordOf placed (Tokenizer.collect_stemming_sublist plain found)
    · rw [ran, found]
      rfl

end Run

/-- A request is tokenized unless there is an obstacle, which is then the error: the file cannot be read, a
variable is malformed, there is no language or an unknown one, or the wrapped tokenizer is unknown. Otherwise
each field of the settings is what the request gives, or else the environment, or else the file, and is as
usual if none does. The tokenizer is the one that these settings describe, over the wrapped tokenizer and the
store of the request. What it collects in the mode that stands for the request is what is told, each token
with its piece of the text; and if it cannot collect the tokens, that is the error. No file is changed. -/
theorem tokenize_outcome (lookup : String → Option String) (files : Files) (request : TokenizeRequest)
    (options : Invocation) :
    let i := { options with command := .tokenize request }
    let outcome := i.run lookup files
    outcome.files = files ∧
      ((∃ e, prepare lookup files request = .error e) ↔ ∃ e, Obstacle lookup files request e) ∧
      (∀ e, prepare lookup files request = .error e →
        Obstacle lookup files request e ∧ outcome.output = .error e) ∧
      ∀ settings t, prepare lookup files request = .ok (settings, t) →
        Configures lookup files request settings ∧
        (∃ (kind : Plain) (cascade : Cascade), kind.name = request.inner ∧
          settings.languages.mapM Language.parse = .ok cascade.languages ∧
          t = .stemming (kind.tokenizer settings) ⟨cascade, settings.minTokenLength⟩
            { store := (storeOf files request).1 }) ∧
        let collected := (t.collect (storeOf files request).2.access request.text request.mode ()).1
        (∀ e, collected = .error e → outcome.output = .error e) ∧
          ∀ tokens, collected = .ok tokens →
            ∃ records, List.Forall₂ (IsRecordOf request.text) tokens records ∧
              outcome.output =
                .ok ((Report.tokens settings.languages (suppressesStopWords request.mode request.text)
                  records).show i ("Tokens for " ++ Text.quoted request.text)) := by
  intro i outcome
  have unchanged : outcome.files = files := congrArg Outcome.files (run_tokenize lookup files request options)
  refine ⟨unchanged, ?_⟩
  obtain ⟨settings, kind, cascade, configures, named, parsed, prepared⟩ | ⟨e, obstacle, failed⟩ :=
    prepare_cases lookup files request
  · have noError (e : Error) : prepare lookup files request ≠ .error e := by
      rw [prepared]
      nofun
    refine ⟨⟨fun ⟨e, failed⟩ => absurd failed (noError e), fun ⟨_, obstacle⟩ => obstacle.exists_error⟩,
      fun e failed => absurd failed (noError e), ?_⟩
    intro settings' t prepared'
    obtain ⟨rfl, rfl⟩ := Prod.mk.inj (Except.ok.inj (prepared.symm.trans prepared'))
    exact ⟨configures, ⟨kind, cascade, named, parsed, rfl⟩, output_of_prepare options prepared⟩
  · refine ⟨⟨fun _ => ⟨e, obstacle⟩, fun _ => ⟨e, failed⟩⟩, ?_, ?_⟩
    · intro e' failed'
      obtain rfl := Except.error.inj (failed.symm.trans failed')
      exact ⟨obstacle, output_of_prepare_error options failed⟩
    · intro settings t prepared
      rw [failed] at prepared
      cases prepared

/-- The separators are those of the file, the languages and the least length those of the environment. -/
example :
    let lookup (name : String) : Option String :=
      if name = "SNOWCASCADE_STEMMER_LANGUAGES" then some " , en ,"
      else if name = "SNOWCASCADE_STEMMER_MIN_TOKEN_LENGTH" then some " +5 "
      else none
    let stored := "\x7b\"languages\":[\"fr\"],\"separators\":\"x\",\"min_token_length\":7\x7d"
    let i : Invocation := { command := .tokenize { text := "Foxes running", config := some "s.json" } }
    (i.run lookup { entries := [("s.json", Text.toBytes stored)] }).output =
      .ok "     6..13  run  (running)\n" := by
  rfl

end TextAnalysis.CommandLine
