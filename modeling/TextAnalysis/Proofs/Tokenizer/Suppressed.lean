import TextAnalysis.Proofs.StopWords.Tables
import TextAnalysis.Proofs.Tokenizer.Provenance
import TextAnalysis.Proofs.Tokenizer.Unsuppressed

/-!
# Calls in which stop words are suppressed

A stemming tokenizer over a plain one, with a table of stop words, may have been through any calls while
the table came and went. The next query is answered by the table as it is now, as if the tokenizer were
new: it yields the tokens of the document without the stop words, and fails if a word must be looked for
and there is no table.
-/

namespace TextAnalysis

open StopWords

variable {S L σ : Type}

namespace Tokenizer

/-- What the sink is handed is found by noting it beside the state: stores answer the same, whatever the
state. -/
theorem handed_eq_outcome (t : Tokenizer Store Lookup) (h : Holdings) (text : String) (mode : Mode)
    (sink : Sink σ) (s : σ) :
    t.handed h.access text mode sink s =
      (t.outcome h.access text mode sink.noting ([], s)).2.1.reverse := rfl

/-! ### A call as it finds the table -/

section Table

variable {inner : Tokenizer Store Lookup} {rule : RunRule} {mode : Mode} {text : String} {h : Holdings}
  {n : Nat} {oracle : Oracle Store Lookup}

/-- With a table, the tokens that are no stop words are delivered, stemmed. -/
theorem outcome_of_table (hr : inner.rule? = some rule) (suppress : suppressesStopWords mode text = true)
    (reads : oracle.Reads n) {words : List String} (hw : (h.table n).words? = some words)
    (stage : Stage) (sink : Sink σ) (s : σ) :
    (stemming inner stage oracle).outcome h.access text mode sink s =
      deliver sink (.ok .proceed)
        (stage.stems ((rule.tokens text).filter fun token => !words.contains token.text)) s := by
  obtain ⟨_, -, walked⟩ := Stage.walk_of_decides (Stage.decides_of_table hw) stage sink (.ok .proceed)
    (rule.tokens text) s ⟨reads.beginSession, oracle.handle_beginSession_ne⟩
  rw [outcome, tokenize_stemming hr, suppress, walked]

/-- Without a table, no word can be looked up. -/
theorem outcome_of_missing (hr : inner.rule? = some rule)
    (suppress : suppressesStopWords mode text = true) (reads : oracle.Reads n)
    (hw : (h.table n).words? = none) (stage : Stage) (sink : Sink σ) (s : σ) :
    (stemming inner stage oracle).outcome h.access text mode sink s =
      (stage.unanswered (.ok .proceed) (rule.tokens text), s) := by
  obtain ⟨_, walked⟩ := Stage.walk_of_failing
    (fun word (s : σ) => ⟨_, reads.beginSession.ask_of_missing hw word s⟩) stage sink (.ok .proceed)
    (rule.tokens text) s
  rw [outcome, tokenize_stemming hr, suppress, walked]

/-- Without a table, the sink is handed nothing. -/
theorem handed_of_missing (hr : inner.rule? = some rule)
    (suppress : suppressesStopWords mode text = true) (reads : oracle.Reads n)
    (hw : (h.table n).words? = none) (stage : Stage) (sink : Sink σ) (s : σ) :
    (stemming inner stage oracle).handed h.access text mode sink s = [] := by
  rw [handed_eq_outcome, outcome_of_missing hr suppress reads hw]
  rfl

/-- How a call ends depends on the table, not on what the oracle has been through. -/
theorem outcome_congr {oracle' : Oracle Store Lookup} (hr : inner.rule? = some rule)
    (suppress : suppressesStopWords mode text = true) (reads : oracle.Reads n)
    (reads' : oracle'.Reads n) (stage : Stage) (sink : Sink σ) (s : σ) :
    (stemming inner stage oracle).outcome h.access text mode sink s =
      (stemming inner stage oracle').outcome h.access text mode sink s := by
  cases hw : (h.table n).words? with
  | some words =>
    rw [outcome_of_table hr suppress reads hw, outcome_of_table hr suppress reads' hw]
  | none => rw [outcome_of_missing hr suppress reads hw, outcome_of_missing hr suppress reads' hw]

/-- A call leaves all of the tokenizer as it was but the oracle, which reads the same table. -/
theorem reads_of_tokenize (hr : inner.rule? = some rule) (reads : oracle.Reads n) (stage : Stage)
    (text : String) (mode : Mode) (h : Holdings) (sink : Sink σ) (s : σ) :
    ∃ oracle' : Oracle Store Lookup, oracle'.Reads n ∧
      ((stemming inner stage oracle).tokenize text mode h.access sink s).2.1 =
        stemming inner stage oracle' := by
  rw [tokenize_stemming hr]
  have keep : ∀ (oracle : Oracle Store Lookup) (word : String) (s : σ), oracle.Reads n →
      (oracle.ask h.access word s).2.1.Reads n := fun _ word s reads => reads.ask h word s
  exact ⟨_, Stage.walk_oracle keep stage _ sink _ _ s reads.beginSession, rfl⟩

end Table

/-! ### What a tokenizer may have been through -/

/-- What stores hold and what a tokenizer has become, after calls of any kind and changes of tables. -/
inductive Reachable (fresh : Tokenizer Store Lookup) : Holdings → Tokenizer Store Lookup → Prop where
  /-- Stores hold anything when the tokenizer is made. -/
  | start (h : Holdings) : Reachable fresh h fresh
  /-- A call is completed, stopped by its sink, or fails. -/
  | call {h : Holdings} {t : Tokenizer Store Lookup} {σ : Type} (text : String) (mode : Mode)
      (sink : Sink σ) (s : σ) (before : Reachable fresh h t) :
      Reachable fresh h (t.tokenize text mode h.access sink s).2.1
  /-- A table is made, has a word added or is removed. -/
  | change {h : Holdings} {t : Tokenizer Store Lookup} (n : Nat) (c : TableChange)
      (before : Reachable fresh h t) : Reachable fresh (h.change n c) t

/-- Whatever a stemming tokenizer over a plain one has been through, its oracle reads the table that it
was made with, and nothing else has changed. -/
theorem Reachable.exists_reads {inner : Tokenizer Store Lookup} {rule : RunRule}
    (hr : inner.rule? = some rule) {stage : Stage} {n : Nat} {h : Holdings} {t : Tokenizer Store Lookup}
    (reachable : Reachable (stemming inner stage { store := .memory n }) h t) :
    ∃ oracle : Oracle Store Lookup, oracle.Reads n ∧ t = stemming inner stage oracle := by
  induction reachable with
  | start h => exact ⟨_, Oracle.reads_pending n, rfl⟩
  | call text mode sink s _ ih =>
    obtain ⟨oracle, reads, rfl⟩ := ih
    exact reads_of_tokenize hr reads stage text mode _ sink s
  | change _ _ _ ih => exact ih

/-- A query in which stop words are suppressed is answered by the table as it is, whatever tokenizer and
table have been through. If there is a table, the call succeeds with the tokens of the document without
those at whose places the plain tokenizer has a word of the table. If there is none, the call fails at
the first word that is long enough to be looked for, before the sink is handed anything; without such a
word it succeeds with no tokens. A tokenizer that has just been made does the same. -/
theorem suppressing_call_of_reachable {settings : Settings} {kind : Plain} {n : Nat}
    {fresh : Tokenizer Store Lookup}
    (built : (Registry.plain : Registry Store).build settings (.memory n) (some kind.name) = .ok fresh)
    {h : Holdings} {t : Tokenizer Store Lookup} (reachable : Reachable fresh h t) {mode : Mode}
    {text : String} (query : mode.query = true) (complete : mode.partialTerm = false)
    (word : ' ' ∉ text.toList) (sink : Sink σ) (s : σ) :
    ∃ bare document,
      ((kind.tokenizer settings : Tokenizer Store Lookup).collect h.access text mode s).1 = .ok bare ∧
      (t.collect h.access text .forDocument s).1 = .ok document ∧
      (∀ words, (h.table n).words? = some words →
        let left := document.filter fun stem =>
          !bare.any fun token => token.place = stem.place && words.contains token.text
        (t.collect h.access text mode s).1 = .ok left ∧
          t.outcome h.access text mode sink s = deliver sink (.ok .proceed) left s) ∧
      ((h.table n).words? = none → (∃ token ∈ bare, settings.minTokenLength ≤ token.size) →
        (∃ token, (bare.find? fun token => settings.minTokenLength ≤ token.size) = some token ∧
            t.outcome h.access text mode sink s = (.error (Stage.lookupError token.text), s)) ∧
          t.handed h.access text mode sink s = []) ∧
      ((h.table n).words? = none → (∀ token ∈ bare, token.size < settings.minTokenLength) →
        t.outcome h.access text mode sink s = (.ok .proceed, s) ∧
          t.handed h.access text mode sink s = []) ∧
      t.outcome h.access text mode sink s = fresh.outcome h.access text mode sink s ∧
      t.handed h.access text mode sink s = fresh.handed h.access text mode sink s := by
  obtain ⟨cascade, -, rfl⟩ := Registry.of_build_plain built
  have hr := kind.rule?_tokenizer (S := Store) (L := Lookup) settings
  have suppress : suppressesStopWords mode text = true := by
    rw [← Bool.not_eq_false, suppressesStopWords_eq_false_iff]
    simp [query, complete, word]
  have unsuppressed : suppressesStopWords .forDocument text = false :=
    suppressesStopWords_of_not_query rfl text
  obtain ⟨oracle, reads, rfl⟩ := reachable.exists_reads hr
  have distinct := (kind.rule settings).nodup_places text
  refine ⟨(kind.rule settings).tokens text, Stage.stems ⟨cascade, settings.minTokenLength⟩ _, ?_,
    collect_of_outcome (outcome_unsuppressed hr unsuppressed _ _ _ _ _), ?_, ?_, ?_, ?_, ?_⟩
  · rw [collect_of_rule? hr]
  · intro words hw
    rw [← Stage.stems_filter _ distinct]
    exact ⟨collect_of_outcome (outcome_of_table hr suppress reads hw _ _ _),
      outcome_of_table hr suppress reads hw _ _ _⟩
  · intro hw long
    obtain ⟨token, found, failed⟩ := Stage.exists_unanswered ⟨cascade, settings.minTokenLength⟩
      (.ok .proceed) long
    refine ⟨⟨token, found, ?_⟩, handed_of_missing hr suppress reads hw _ sink s⟩
    rw [outcome_of_missing hr suppress reads hw, failed]
  · intro hw short
    have ended := Stage.unanswered_of_short ⟨cascade, settings.minTokenLength⟩ (.ok .proceed) short
    refine ⟨?_, handed_of_missing hr suppress reads hw _ sink s⟩
    rw [outcome_of_missing hr suppress reads hw, ended]
  · exact outcome_congr hr suppress reads (Oracle.reads_pending n) _ _ _
  · rw [handed_eq_outcome, handed_eq_outcome,
      outcome_congr hr suppress reads (Oracle.reads_pending n)]

/-- A query that failed for want of a table is followed by one that succeeds, once there is a table. -/
theorem suppressing_call_after_failure :
    let missing : Holdings := ⟨[.missing], {}⟩
    let present : Holdings := missing.change 0 (.create ["the"])
    let sink : Sink (List Token) := fun token kept => (.ok .proceed, token :: kept)
    ∃ fresh : Tokenizer Store Lookup,
      (Registry.plain : Registry Store).build {} (.memory 0) (some Plain.unicode.name) = .ok fresh ∧
      let failed := fresh.tokenize "foxes" .forQuery missing.access sink []
      failed.1 = .error (Stage.lookupError "foxes") ∧ fresh.Reachable present failed.2.1 ∧
        ' ' ∉ "The-foxes".toList ∧
        failed.2.1.outcome present.access "The-foxes" .forQuery sink [] =
          (.ok .proceed, [⟨"fox", 4, 9, false⟩]) := by
  intro missing present sink
  have built := Registry.build_plain (S := Store) (L := Lookup) {} (.memory 0) .unicode
  have noSpace : ' ' ∉ "The-foxes".toList := by decide
  refine ⟨_, built, ?_, ?_, noSpace, ?_⟩
  · rfl
  · exact .change 0 _ (.call _ _ _ _ (.start missing))
  · obtain ⟨_, _, -, -, -, -, -, same, -⟩ := suppressing_call_of_reachable built
      (.change 0 (.create ["the"]) (.call "foxes" .forQuery sink [] (.start missing)))
      (rfl : Mode.forQuery.query = true) rfl noSpace sink []
    rw [same]
    apply Prod.ext
    · rfl
    · decide +kernel

end Tokenizer

end TextAnalysis
