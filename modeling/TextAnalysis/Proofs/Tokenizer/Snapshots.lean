import TextAnalysis.Proofs.StopWords.File
import TextAnalysis.Proofs.StopWords.Snapshots
import TextAnalysis.Proofs.Tokenizer.Provenance
import TextAnalysis.Proofs.Tokenizer.Unsuppressed

/-!
# Stop words that were read from a file

A stemming tokenizer over a plain one, with a file of stop words, reads the file in the first call that needs
a stop word and finds the file readable. Every later call is answered by the words that were read then,
whatever has become of the file. What a tokenizer has read can be told from the attempts that were noted.
-/

namespace TextAnalysis

open StopWords

variable {S L σ : Type}

/-- The tokens that are left are the stemmed ones at whose places no word stood that was read. -/
theorem Stage.left_eq_filter (stage : Stage) {tokens : List Token}
    (distinct : (tokens.map Token.place).Nodup) (words : List String) :
    stage.left true (some words) tokens =
      (stage.stems tokens).filter fun stem =>
        !tokens.any fun token => token.place = stem.place && words.contains token.text :=
  stage.stems_filter distinct words.contains

namespace Tokenizer

/-- Stores that are a part of the state and that the sink leaves alone might as well stay as they are. -/
theorem tokenize_live {inner : Tokenizer Store Lookup} {rule : RunRule} (hr : inner.rule? = some rule)
    (stage : Stage) (oracle : Oracle Store Lookup) (text : String) (mode : Mode) (sink : Sink σ)
    (h : Holdings) (s : σ) :
    let call := (stemming inner stage oracle).tokenize text mode h.access sink s
    (stemming inner stage oracle).tokenize text mode Holdings.live (sink.beside Holdings) (h, s) =
      (call.1, call.2.1, h, call.2.2) := by
  rw [tokenize_stemming hr, tokenize_stemming hr, Stage.walk_live]

/-- The attempts to connect to stores in a call, in order, and what came of them. -/
def attempts (t : Tokenizer S L) (access : Access S L σ) (text : String) (mode : Mode) (sink : Sink σ)
    (s : σ) : List (S × Except Error L) :=
  (t.tokenize text mode access.notingAttempts (sink.beside _) ([], s)).2.2.1.reverse

/-- What the sink is handed is found by noting it beside the state. -/
theorem handed_eq_outcome_beside (t : Tokenizer S L) (access : Access S L σ) (text : String) (mode : Mode)
    (sink : Sink σ) (s : σ) :
    t.handed access text mode sink s =
      (t.outcome (access.beside (List Token)) text mode sink.noting ([], s)).2.1.reverse := rfl

/-- The words that were read at the first attempt that succeeded. -/
def firstRead (log : List (Store × Except Error Lookup)) : Option (List String) :=
  log.findSome? fun
    | (_, .ok (.snapshot words)) => some words
    | _ => none

/-- Nothing has been read without an attempt. -/
theorem firstRead_nil : firstRead [] = none := rfl

/-- What is read later makes no difference. -/
theorem firstRead_append (log log' : List (Store × Except Error Lookup)) :
    firstRead (log ++ log') = (firstRead log).or (firstRead log') :=
  List.findSome?_append

/-! ### One call -/

section Call

variable {inner : Tokenizer Store Lookup} {rule : RunRule} {mode : Mode} {text path : String}
  {read : Option (List String)} {words : List String} {oracle oracle' : Oracle Store Lookup}
  {access : Access Store Lookup σ} {stage : Stage} {s s' : σ}

/-- A call depends on the oracle only by what the oracle has read. -/
theorem tokenize_of_read (hr : inner.rule? = some rule) (begun : oracle.beginSession = .ofFile path read)
    (stage : Stage) (text : String) (mode : Mode) (access : Access Store Lookup σ) (sink : Sink σ)
    (s : σ) :
    let walked := stage.walk access (suppressesStopWords mode text) sink (.ok .proceed)
      (rule.tokens text) (.ofFile path read) s
    (stemming inner stage oracle).tokenize text mode access sink s =
      (walked.1, stemming inner stage walked.2.1, walked.2.2) := by
  rw [tokenize_stemming hr, begun]

/-- If the file need not be read, the tokens that are left are delivered. -/
theorem tokenize_of_not_mustRead (hr : inner.rule? = some rule)
    (begun : oracle.beginSession = .ofFile path read) (answers : access.AnswersSnapshots)
    (settled : ¬ stage.MustRead (suppressesStopWords mode text) read (rule.tokens text))
    (sink : Sink σ) (s : σ) :
    let delivered := deliver sink (.ok .proceed)
      (stage.left (suppressesStopWords mode text) read (rule.tokens text)) s
    (stemming inner stage oracle).tokenize text mode access sink s =
      (delivered.1, stemming inner stage (.ofFile path read), delivered.2) := by
  rw [tokenize_of_read hr begun, Stage.walk_of_not_mustRead answers settled]

/-- If the file is read, the tokens that are then left are delivered. -/
theorem tokenize_of_connected (hr : inner.rule? = some rule)
    (begun : oracle.beginSession = .ofFile path none) (answers : access.AnswersSnapshots)
    (must : stage.MustRead (suppressesStopWords mode text) none (rule.tokens text))
    (connected : access.connect (.file path) s = (.ok (.snapshot words), s')) (sink : Sink σ) :
    let delivered := deliver sink (.ok .proceed)
      (stage.left (suppressesStopWords mode text) (some words) (rule.tokens text)) s'
    (stemming inner stage oracle).tokenize text mode access sink s =
      (delivered.1, stemming inner stage (.ofFile path (some words)), delivered.2) := by
  rw [tokenize_of_read hr begun, Stage.walk_of_connected answers must connected]

/-- If the file cannot be read, nothing is delivered. -/
theorem tokenize_of_unreadable (hr : inner.rule? = some rule)
    (begun : oracle.beginSession = .ofFile path none)
    (must : stage.MustRead (suppressesStopWords mode text) none (rule.tokens text)) {e : Error}
    (failed : access.connect (.file path) s = (.error e, s')) (sink : Sink σ) :
    (stemming inner stage oracle).tokenize text mode access sink s =
      (stage.unanswered (.ok .proceed) (rule.tokens text),
        stemming inner stage { store := .file path, handle := .failed }, s') := by
  rw [tokenize_of_read hr begun, Stage.walk_of_unreadable must failed]

/-- No attempt is made to connect if the file need not be read. -/
theorem attempts_of_not_mustRead (hr : inner.rule? = some rule)
    (begun : oracle.beginSession = .ofFile path read) (answers : access.AnswersSnapshots)
    (settled : ¬ stage.MustRead (suppressesStopWords mode text) read (rule.tokens text))
    (sink : Sink σ) (s : σ) :
    (stemming inner stage oracle).attempts access text mode sink s = [] := by
  rw [attempts, tokenize_of_not_mustRead hr begun answers.notingAttempts settled, deliver_beside]
  rfl

/-- One attempt is made to connect if the file must be read. -/
theorem attempts_of_mustRead (hr : inner.rule? = some rule)
    (begun : oracle.beginSession = .ofFile path none) (answers : access.AnswersSnapshots)
    (must : stage.MustRead (suppressesStopWords mode text) none (rule.tokens text))
    {found : Except Error (List String)} (finds : access.Finds path s found) (sink : Sink σ) :
    (stemming inner stage oracle).attempts access text mode sink s =
      [(.file path, found.map .snapshot)] := by
  have noted : access.notingAttempts.connect (.file path) ([], s) =
      (found.map .snapshot, [(.file path, found.map .snapshot)], s) := by
    simp only [Access.notingAttempts, show access.connect (.file path) s = _ from finds]
  cases found with
  | ok words =>
    rw [attempts, tokenize_of_connected hr begun answers.notingAttempts must noted, deliver_beside]
    rfl
  | error e =>
    rw [attempts, tokenize_of_unreadable hr begun must noted]
    rfl

/-- If the file need not be read, what a call shows is the delivery of the tokens that are left. -/
theorem outcome_of_not_mustRead (hr : inner.rule? = some rule)
    (begun : oracle.beginSession = .ofFile path read) (answers : access.AnswersSnapshots)
    (settled : ¬ stage.MustRead (suppressesStopWords mode text) read (rule.tokens text))
    (sink : Sink σ) (s : σ) :
    (stemming inner stage oracle).outcome access text mode sink s =
      deliver sink (.ok .proceed)
        (stage.left (suppressesStopWords mode text) read (rule.tokens text)) s := by
  rw [outcome, tokenize_of_not_mustRead hr begun answers settled]

/-- If the file can be read, the outcome is the same as if it had been read before. -/
theorem outcome_of_found (hr : inner.rule? = some rule) (begun : oracle.beginSession = .ofFile path none)
    (begun' : oracle'.beginSession = .ofFile path (some words)) (answers : access.AnswersSnapshots)
    (finds : access.Finds path s (.ok words)) (stage : Stage) (text : String) (mode : Mode)
    (sink : Sink σ) :
    (stemming inner stage oracle').outcome access text mode sink s =
      (stemming inner stage oracle).outcome access text mode sink s := by
  rw [outcome_of_not_mustRead hr begun' answers Stage.not_mustRead_some]
  by_cases must : stage.MustRead (suppressesStopWords mode text) none (rule.tokens text)
  · rw [outcome, tokenize_of_connected hr begun answers must finds]
  · rw [outcome_of_not_mustRead hr begun answers must, Stage.left_of_not_mustRead must]

/-- Where words have been read or can be read, the tokens that are none of these words are delivered. -/
theorem outcome_of_words {found : Except Error (List String)} (hr : inner.rule? = some rule)
    (begun : oracle.beginSession = .ofFile path read) (answers : access.AnswersSnapshots)
    (finds : access.Finds path s found)
    (known : read = some words ∨ read = none ∧ found = .ok words) (stage : Stage) (text : String)
    (mode : Mode) (sink : Sink σ) :
    (stemming inner stage oracle).outcome access text mode sink s =
      deliver sink (.ok .proceed)
        (stage.left (suppressesStopWords mode text) (some words) (rule.tokens text)) s := by
  obtain rfl | ⟨rfl, rfl⟩ := known
  · exact outcome_of_not_mustRead hr begun answers Stage.not_mustRead_some sink s
  · have read := Oracle.beginSession_ofFile path (some words)
    rw [← outcome_of_found hr begun read answers finds]
    exact outcome_of_not_mustRead hr read answers Stage.not_mustRead_some sink s

/-- Where words must be read and cannot be, the call fails at the first token that is long enough. -/
theorem outcome_of_unreadable {e : Error} (hr : inner.rule? = some rule)
    (begun : oracle.beginSession = .ofFile path none)
    (must : stage.MustRead (suppressesStopWords mode text) none (rule.tokens text))
    (finds : access.Finds path s (.error e)) (sink : Sink σ) :
    (stemming inner stage oracle).outcome access text mode sink s =
      (stage.unanswered (.ok .proceed) (rule.tokens text), s) := by
  rw [outcome, tokenize_of_unreadable hr begun must finds]

/-- The outcome depends on the oracle only by what it has read. -/
theorem outcome_of_begun (hr : inner.rule? = some rule) (begun : oracle.beginSession = .ofFile path read)
    (begun' : oracle'.beginSession = .ofFile path read) (stage : Stage) (access : Access Store Lookup σ)
    (text : String) (mode : Mode) (sink : Sink σ) (s : σ) :
    (stemming inner stage oracle').outcome access text mode sink s =
      (stemming inner stage oracle).outcome access text mode sink s := by
  rw [outcome, outcome, tokenize_of_read hr begun, tokenize_of_read hr begun']

end Call

/-! ### What a tokenizer has been through -/

/-- What stores hold, what a tokenizer has become, and its attempts to connect so far, after calls of any
kind while anything happens to the stores. -/
inductive History (fresh : Tokenizer Store Lookup) :
    Holdings → Tokenizer Store Lookup → List (Store × Except Error Lookup) → Prop where
  /-- Stores hold anything when the tokenizer is made. -/
  | start (h : Holdings) : History fresh h fresh []
  /-- Files are written, changed or removed. -/
  | change {h : Holdings} {t : Tokenizer Store Lookup} {log : List (Store × Except Error Lookup)}
      (h' : Holdings) (before : History fresh h t log) : History fresh h' t log
  /-- A call is completed, stopped by its sink, or fails. The sink may change the stores as well. -/
  | call {h : Holdings} {t : Tokenizer Store Lookup} {log : List (Store × Except Error Lookup)} {σ : Type}
      (text : String) (mode : Mode) (sink : Sink (Holdings × σ)) (s : σ) (before : History fresh h t log) :
      History fresh (t.tokenize text mode Holdings.live sink (h, s)).2.2.1
        (t.tokenize text mode Holdings.live sink (h, s)).2.1
        (log ++ t.attempts Holdings.live text mode sink (h, s))

section History

variable {inner : Tokenizer Store Lookup} {rule : RunRule} {path : String}
  {read : Option (List String)} {oracle : Oracle Store Lookup}

/-- After a call an oracle has read what it had read before, or else what it has read in this call. -/
theorem begun_of_tokenize (hr : inner.rule? = some rule) (begun : oracle.beginSession = .ofFile path read)
    (stage : Stage) (text : String) (mode : Mode) (sink : Sink (Holdings × σ)) (h : Holdings) (s : σ) :
    ∃ oracle' : Oracle Store Lookup,
      ((stemming inner stage oracle).tokenize text mode Holdings.live sink (h, s)).2.1 =
          stemming inner stage oracle' ∧
        oracle'.beginSession = .ofFile path (read.or (firstRead
          ((stemming inner stage oracle).attempts Holdings.live text mode sink (h, s)))) := by
  by_cases must : stage.MustRead (suppressesStopWords mode text) read (rule.tokens text)
  · obtain rfl := must.unread
    have finds := Holdings.live_finds h path s
    rw [attempts_of_mustRead hr begun Holdings.live_answers must finds]
    cases there : h.wordsAt path with
    | ok words =>
      rw [there] at finds
      rw [tokenize_of_connected hr begun Holdings.live_answers must finds]
      exact ⟨_, rfl, rfl⟩
    | error e =>
      rw [there] at finds
      rw [tokenize_of_unreadable hr begun must finds]
      exact ⟨_, rfl, rfl⟩
  · rw [tokenize_of_not_mustRead hr begun Holdings.live_answers must,
      attempts_of_not_mustRead hr begun Holdings.live_answers must]
    refine ⟨_, rfl, ?_⟩
    rw [Oracle.beginSession_ofFile, firstRead_nil, Option.or_none]

/-- What is read for the first time are the words of the file as it is before the call. -/
theorem wordsAt_of_firstRead (hr : inner.rule? = some rule)
    (begun : oracle.beginSession = .ofFile path none) {stage : Stage} {text : String} {mode : Mode}
    {sink : Sink (Holdings × σ)} {h : Holdings} {s : σ} {words : List String}
    (found : firstRead
      ((stemming inner stage oracle).attempts Holdings.live text mode sink (h, s)) = some words) :
    h.wordsAt path = .ok words := by
  by_cases must : stage.MustRead (suppressesStopWords mode text) none (rule.tokens text)
  · rw [attempts_of_mustRead hr begun Holdings.live_answers must (Holdings.live_finds h path s)] at found
    cases there : h.wordsAt path with
    | ok words' =>
      rw [there] at found
      exact congrArg Except.ok (Option.some.inj found)
    | error e =>
      rw [there] at found
      cases found
  · rw [attempts_of_not_mustRead hr begun Holdings.live_answers must] at found
    cases found

/-- A call makes no difference to the outcome of the next one if the file holds the same words. -/
theorem outcome_after_tokenize {τ : Type} {access : Access Store Lookup τ} (hr : inner.rule? = some rule)
    (begun : oracle.beginSession = .ofFile path read) (stage : Stage) (text : String) (mode : Mode)
    (sink : Sink (Holdings × σ)) (h : Holdings) (s : σ) (answers : access.AnswersSnapshots) {s' : τ}
    (finds : access.Finds path s' (h.wordsAt path)) (text' : String) (mode' : Mode) (sink' : Sink τ) :
    ((stemming inner stage oracle).tokenize text mode Holdings.live sink (h, s)).2.1.outcome access text'
        mode' sink' s' =
      (stemming inner stage oracle).outcome access text' mode' sink' s' := by
  obtain ⟨oracle', after, begun'⟩ := begun_of_tokenize hr begun stage text mode sink h s
  rw [after]
  cases read with
  | some words => exact outcome_of_begun hr begun begun' stage access text' mode' sink' s'
  | none =>
    rw [Option.none_or] at begun'
    cases found : firstRead
        ((stemming inner stage oracle).attempts Holdings.live text mode sink (h, s)) with
    | none =>
      rw [found] at begun'
      exact outcome_of_begun hr begun begun' stage access text' mode' sink' s'
    | some words =>
      -- The first call read the file, where the second one finds the same words by itself.
      rw [found] at begun'
      rw [wordsAt_of_firstRead hr begun found] at finds
      exact outcome_of_found hr begun begun' answers finds stage text' mode' sink'

/-- Whatever a stemming tokenizer over a plain one has been through, its oracle has read what was first read,
and nothing else has changed. -/
theorem History.exists_begun (hr : inner.rule? = some rule) {stage : Stage} {h : Holdings}
    {t : Tokenizer Store Lookup} {log : List (Store × Except Error Lookup)}
    (history : History (stemming inner stage { store := .file path }) h t log) :
    ∃ oracle : Oracle Store Lookup,
      oracle.beginSession = .ofFile path (firstRead log) ∧ t = stemming inner stage oracle := by
  induction history with
  | start h => exact ⟨_, rfl, rfl⟩
  -- What happens to the stores leaves both the oracle and the log alone.
  | change _ _ ih => exact ih
  | call text mode sink s _ ih =>
    obtain ⟨oracle, begun, rfl⟩ := ih
    obtain ⟨oracle', after, begun'⟩ := begun_of_tokenize hr begun stage text mode sink _ s
    exact ⟨oracle', by rw [begun', firstRead_append], after⟩

/-- A call for which words have been read, or can be read, yields the tokens of the document without those at
whose places the plain tokenizer has one of these words. -/
theorem call_of_words {stage : Stage} {text : String} {mode : Mode} {words : List String} {h : Holdings}
    (hr : inner.rule? = some rule) (begun : oracle.beginSession = .ofFile path read)
    (suppress : suppressesStopWords mode text = true)
    (known : read = some words ∨ read = none ∧ h.wordsAt path = .ok words) (sink : Sink (Holdings × σ))
    (s : σ) :
    let t := stemming inner stage oracle
    let left := (stage.stems (rule.tokens text)).filter fun stem =>
      !(rule.tokens text).any fun token => token.place = stem.place && words.contains token.text
    (t.collect Holdings.live text mode (h, s)).1 = .ok left ∧
      t.outcome Holdings.live text mode sink (h, s) = deliver sink (.ok .proceed) left (h, s) := by
  intro t left
  have finds := Holdings.live_finds h path s
  have left_eq : stage.left (suppressesStopWords mode text) (some words) (rule.tokens text) = left := by
    rw [suppress, stage.left_eq_filter (rule.nodup_places text)]
  rw [← left_eq]
  constructor
  · exact collect_of_outcome
      (outcome_of_words hr begun (Holdings.live_answers.beside _) (finds.beside _) known stage text mode _)
  · exact outcome_of_words hr begun Holdings.live_answers finds known stage text mode sink

/-- A call without a token that is long enough succeeds with no tokens. -/
theorem call_of_short (hr : inner.rule? = some rule) (begun : oracle.beginSession = .ofFile path read)
    (stage : Stage) {text : String}
    (short : ∀ token ∈ rule.tokens text, token.size < stage.leastLength) (mode : Mode)
    (sink : Sink (Holdings × σ)) (h : Holdings) (s : σ) :
    let t := stemming inner stage oracle
    t.attempts Holdings.live text mode sink (h, s) = [] ∧
      t.outcome Holdings.live text mode sink (h, s) = (.ok .proceed, h, s) ∧
      t.handed Holdings.live text mode sink (h, s) = [] := by
  intro t
  have settled : ¬ stage.MustRead (suppressesStopWords mode text) read (rule.tokens text) := by
    rintro ⟨-, -, token, ht, hl⟩
    exact Nat.not_lt.mpr hl (short token ht)
  refine ⟨attempts_of_not_mustRead hr begun Holdings.live_answers settled sink (h, s), ?_, ?_⟩
  · rw [outcome_of_not_mustRead hr begun Holdings.live_answers settled, Stage.left_of_short short]
    rfl
  · rw [handed_eq_outcome_beside, outcome_of_not_mustRead hr begun (Holdings.live_answers.beside _) settled,
      Stage.left_of_short short]
    rfl

/-- A call that must read the file and cannot fails, once it has tried, at the first token that is long
enough. -/
theorem call_of_unreadable {stage : Stage} {text : String} {mode : Mode} {h : Holdings} {e : Error}
    (hr : inner.rule? = some rule) (begun : oracle.beginSession = .ofFile path none)
    (must : stage.MustRead (suppressesStopWords mode text) none (rule.tokens text))
    (unreadable : h.wordsAt path = .error e) (sink : Sink (Holdings × σ)) (s : σ) :
    let t := stemming inner stage oracle
    t.attempts Holdings.live text mode sink (h, s) = [(.file path, .error e)] ∧
      (∃ token, ((rule.tokens text).find? fun token => stage.leastLength ≤ token.size) = some token ∧
        t.outcome Holdings.live text mode sink (h, s) =
          (.error (Stage.lookupError token.text), h, s)) ∧
      t.handed Holdings.live text mode sink (h, s) = [] := by
  intro t
  have finds := Holdings.live_finds h path s
  rw [unreadable] at finds
  refine ⟨attempts_of_mustRead hr begun Holdings.live_answers must finds sink, ?_, ?_⟩
  · obtain ⟨token, found, failed⟩ := stage.exists_unanswered (.ok .proceed) must.long
    exact ⟨token, found, by rw [outcome_of_unreadable hr begun must finds, failed]⟩
  · rw [handed_eq_outcome_beside, outcome_of_unreadable hr begun must (finds.beside _)]
    rfl

/-- A stemming tokenizer over a plain one, with a file of stop words, may have been through any calls while
anything happened to the file. Until it has read the file, a call that suppresses stop words and has a token
that is long enough tries once to read it. If that succeeds, the words of the file are those that are dropped
in this call and in every later one, which never reads the file again. If not, the call fails before the sink
is handed anything, and the next such call tries again. Calls that do not suppress stop words do not try.
After a call that leaves the file as it was, the next one ends as if the first had not been made. -/
theorem call_of_history {settings : Settings} {kind : Plain} {path : String}
    {fresh : Tokenizer Store Lookup}
    (built : (Registry.plain : Registry Store).build settings (.file path) (some kind.name) = .ok fresh)
    {h : Holdings} {t : Tokenizer Store Lookup} {log : List (Store × Except Error Lookup)}
    (history : History fresh h t log) (text : String) (mode : Mode) (sink : Sink (Holdings × σ)) (s : σ) :
    let attempts := t.attempts Holdings.live text mode sink (h, s)
    let after := (t.tokenize text mode Holdings.live sink (h, s)).2.1
    t.isConnected = (firstRead log).isSome ∧
    (t.isConnected = true → after.isConnected = true) ∧
    (suppressesStopWords mode text = false → attempts = [] ∧ after.isConnected = t.isConnected) ∧
    (suppressesStopWords mode text = true → ∃ bare document,
      ((kind.tokenizer settings : Tokenizer Store Lookup).collect Holdings.live text mode (h, s)).1 =
        .ok bare ∧
      (t.collect Holdings.live text .forDocument (h, s)).1 = .ok document ∧
      let left (words : List String) := document.filter fun stem =>
        !bare.any fun token => token.place = stem.place && words.contains token.text
      (∀ words, firstRead log = some words →
        attempts = [] ∧
        (t.collect Holdings.live text mode (h, s)).1 = .ok (left words) ∧
        t.outcome Holdings.live text mode sink (h, s) =
          deliver sink (.ok .proceed) (left words) (h, s)) ∧
      (firstRead log = none → (∀ token ∈ bare, token.size < settings.minTokenLength) →
        attempts = [] ∧ t.outcome Holdings.live text mode sink (h, s) = (.ok .proceed, h, s) ∧
        t.handed Holdings.live text mode sink (h, s) = [] ∧ after.isConnected = false) ∧
      (firstRead log = none → (∃ token ∈ bare, settings.minTokenLength ≤ token.size) →
        (∀ words, h.wordsAt path = .ok words →
          attempts = [(.file path, .ok (.snapshot words))] ∧
          (t.collect Holdings.live text mode (h, s)).1 = .ok (left words) ∧
          t.outcome Holdings.live text mode sink (h, s) =
            deliver sink (.ok .proceed) (left words) (h, s) ∧ after.isConnected = true) ∧
        (∀ e, h.wordsAt path = .error e →
          attempts = [(.file path, .error e)] ∧
          (∃ token, (bare.find? fun token => settings.minTokenLength ≤ token.size) = some token ∧
            t.outcome Holdings.live text mode sink (h, s) =
              (.error (Stage.lookupError token.text), h, s)) ∧
          t.handed Holdings.live text mode sink (h, s) = [] ∧ after.isConnected = false))) ∧
    (∀ h' : Holdings, h'.wordsAt path = h.wordsAt path →
      ∀ (τ : Type) (text' : String) (mode' : Mode) (sink' : Sink (Holdings × τ)) (s' : τ),
        after.outcome Holdings.live text' mode' sink' (h', s') =
          t.outcome Holdings.live text' mode' sink' (h', s') ∧
        after.handed Holdings.live text' mode' sink' (h', s') =
          t.handed Holdings.live text' mode' sink' (h', s')) := by
  obtain ⟨cascade, -, rfl⟩ := Registry.of_build_plain built
  have hr := kind.rule?_tokenizer (S := Store) (L := Lookup) settings
  obtain ⟨oracle, begun, rfl⟩ := history.exists_begun hr
  let stage : Stage := ⟨cascade, settings.minTokenLength⟩
  let tokens := (kind.rule settings).tokens text
  have finds := Holdings.live_finds h path s
  intro attempts after
  have before_eq : oracle.isConnected = (firstRead log).isSome := by
    rw [← Oracle.isConnected_beginSession, begun, Oracle.isConnected_ofFile]
  have after_eq : after.isConnected = ((firstRead log).or (firstRead attempts)).isSome := by
    obtain ⟨oracle', called, begun'⟩ := begun_of_tokenize hr begun stage text mode sink h s
    rw [show after = _ from called, isConnected, ← Oracle.isConnected_beginSession, begun',
      Oracle.isConnected_ofFile]
  refine ⟨before_eq, ?_, ?_, ?_, ?_⟩
  · intro connected
    rw [after_eq, Option.isSome_or, ← before_eq, show oracle.isConnected = true from connected,
      Bool.true_or]
  · intro stay
    have settled : ¬ stage.MustRead (suppressesStopWords mode text) (firstRead log) tokens := fun must =>
      Bool.false_ne_true (stay.symm.trans must.suppress)
    have silent : attempts = [] :=
      attempts_of_not_mustRead hr begun Holdings.live_answers settled sink (h, s)
    refine ⟨silent, ?_⟩
    rw [after_eq, silent, firstRead_nil, Option.or_none]
    exact before_eq.symm
  · intro suppress
    refine ⟨tokens, stage.stems tokens, ?_, ?_, ?_, ?_, ?_⟩
    · rw [collect_of_rule? hr]
    · have unsuppressed := suppressesStopWords_of_not_query (rfl : Mode.forDocument.query = false) text
      exact collect_of_outcome (outcome_unsuppressed hr unsuppressed _ _ _ _ _)
    · intro words known
      rw [known] at begun
      refine ⟨?_, call_of_words hr begun suppress (.inl rfl) sink s⟩
      exact attempts_of_not_mustRead hr begun Holdings.live_answers Stage.not_mustRead_some sink (h, s)
    · intro unread short
      obtain ⟨silent, ended, handed⟩ := call_of_short hr begun stage short mode sink h s
      refine ⟨silent, ended, handed, ?_⟩
      rw [after_eq, unread, show attempts = [] from silent]
      rfl
    · intro unread long
      rw [unread] at begun
      have must : stage.MustRead (suppressesStopWords mode text) none tokens := ⟨suppress, rfl, long⟩
      constructor
      · intro words readable
        have once : attempts = [(.file path, .ok (.snapshot words))] := by
          rw [readable] at finds
          exact attempts_of_mustRead hr begun Holdings.live_answers must finds sink
        obtain ⟨collected, ended⟩ := call_of_words hr begun suppress (.inr ⟨rfl, readable⟩) sink s
        refine ⟨once, collected, ended, ?_⟩
        rw [after_eq, unread, once]
        rfl
      · intro e unreadable
        obtain ⟨once, failed, handed⟩ := call_of_unreadable hr begun must unreadable sink s
        refine ⟨once, failed, handed, ?_⟩
        rw [after_eq, unread, show attempts = _ from once]
        rfl
  · intro h' same τ text' mode' sink' s'
    have finds' : (Holdings.live : Access Store Lookup (Holdings × τ)).Finds path (h', s')
        (h.wordsAt path) := same ▸ Holdings.live_finds h' path s'
    constructor
    · exact outcome_after_tokenize hr begun stage text mode sink h s Holdings.live_answers finds' text'
        mode' sink'
    · rw [handed_eq_outcome_beside, handed_eq_outcome_beside,
        outcome_after_tokenize hr begun stage text mode sink h s
          (Holdings.live_answers.beside _) (finds'.beside _)]

end History

/-- A query fails while there is no file of stop words. The words that the next query finds in the file are
dropped from the one after it, although the file has been removed. -/
theorem call_of_history_of_removed_file :
    let missing : Holdings := {}
    let written : Holdings := { files := { entries := [("words.txt", Text.toBytes "the\n")] } }
    let fresh : Tokenizer Store Lookup :=
      stemming (.unicode {}) ⟨⟨[.english], List.cons_ne_nil _ _⟩, 3⟩ { store := .file "words.txt" }
    let sink : Sink (Holdings × Nat) := fun _ s => (.ok .proceed, s.1, s.2 + 1)
    let failed := fresh.tokenize "foxes" .forQuery Holdings.live sink (missing, 0)
    let opened := failed.2.1.tokenize "foxes" .forQuery Holdings.live sink (written, 0)
    (Registry.plain : Registry Store).build {} (.file "words.txt") (some Plain.unicode.name) =
        .ok fresh ∧
      failed.1 = .error (Stage.lookupError "foxes") ∧
      (∃ log, fresh.History missing opened.2.1 log ∧ firstRead log = some ["the"]) ∧
      (opened.2.1.collect Holdings.live "The-foxes" .forQuery (missing, ())).1 =
        .ok [⟨"fox", 4, 9, false⟩] := by
  intro missing written fresh sink failed opened
  have built := Registry.build_plain (S := Store) (L := Lookup) {} (.file "words.txt") .unicode
  have start : fresh.History missing fresh [] := .start missing
  have removed := History.change missing
    ((start.call "foxes" .forQuery sink 0).change written |>.call "foxes" .forQuery sink 0)
  have read : firstRead
      (fresh.attempts Holdings.live "foxes" .forQuery sink (missing, 0) ++
        failed.2.1.attempts Holdings.live "foxes" .forQuery sink (written, 0)) = some ["the"] := by
    decide +kernel
  refine ⟨built, rfl, ⟨_, removed, read⟩, ?_⟩
  obtain ⟨-, -, -, suppressing, -⟩ :=
    call_of_history built removed "The-foxes" .forQuery (fun _ s => (.ok .proceed, s)) ()
  obtain ⟨bare, document, bare_eq, document_eq, known, -⟩ := suppressing (by decide)
  obtain ⟨-, collected, -⟩ := known ["the"] read
  have bare_is : bare = [⟨"the", 0, 3, false⟩, ⟨"foxes", 4, 9, false⟩] :=
    Except.ok.inj (bare_eq.symm.trans (by decide +kernel))
  have document_is : document = [⟨"the", 0, 3, false⟩, ⟨"fox", 4, 9, false⟩] :=
    Except.ok.inj (document_eq.symm.trans (by decide +kernel))
  rw [bare_is, document_is] at collected
  exact collected

end Tokenizer

end TextAnalysis
