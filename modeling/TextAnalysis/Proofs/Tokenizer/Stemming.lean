import TextAnalysis.Proofs.StopWords.Stage
import TextAnalysis.Proofs.Tokenizer.Plain
import TextAnalysis.StopWords.Store

/-!
# Calls of a stemming tokenizer

A stemming tokenizer is as good as a walk of its stage along the tokens that the wrapped tokenizer
delivers, whatever the stop-word stores, the oracle and the sink do: the sink has the same calls, the
stores are consulted in the same way and the call ends alike. Over a plain tokenizer those tokens are the
ones of its rule.
-/

namespace TextAnalysis

open StopWords

namespace Tokenizer

variable {S L σ : Type}

/-- In a call with this text and mode the tokenizer hands over the given tokens one after another. It
ends at once when the sink has enough or fails, and else as given. -/
def Delivers (t : Tokenizer S L) (text : String) (mode : Mode) (tokens : List Token)
    (ending : Except Error Flow) : Prop :=
  ∀ {σ : Type} (access : Access S L σ) (sink : Sink σ) (s : σ), ∃ t' : Tokenizer S L,
    t.tokenize text mode access sink s =
      ((deliver sink ending tokens s).1, t', (deliver sink ending tokens s).2)

/-- Fixed tokens are delivered in every call. -/
theorem delivers_fixed (t : FixedTokens) (text : String) (mode : Mode) :
    (fixed t : Tokenizer S L).Delivers text mode t.tokens t.ending :=
  fun _ _ _ => ⟨fixed t, rfl⟩

/-- A plain tokenizer delivers the tokens of its rule in every mode. -/
theorem delivers_of_rule? {t : Tokenizer S L} {rule : RunRule} (h : t.rule? = some rule) (text : String)
    (mode : Mode) : t.Delivers text mode (rule.tokens text) (.ok .proceed) :=
  fun access sink s => ⟨t, tokenize_of_rule? h text mode access sink s⟩

/-- Whatever a wrapped tokenizer delivers, the call of the stemming tokenizer is one walk along it, in a
new session of the oracle and with suppression decided once. The state of sink and stores is of any type,
so that it may keep a record of all that is asked of them. -/
theorem stemming_call_is_walk {inner : Tokenizer S L} {text : String} {mode : Mode}
    {tokens : List Token} {ending : Except Error Flow} (h : inner.Delivers text mode tokens ending)
    (stage : Stage) (oracle : Oracle S L) (access : Access S L σ) (sink : Sink σ) (s : σ) :
    ∃ inner' : Tokenizer S L,
      let walked := stage.walk access (suppressesStopWords mode text) sink ending tokens
        oracle.beginSession s
      (stemming inner stage oracle).tokenize text mode access sink s =
        (walked.1, stemming inner' stage walked.2.1, walked.2.2) := by
  obtain ⟨inner', hd⟩ := h (access.beside (Oracle S L))
    (stage.relay access (suppressesStopWords mode text) sink) (oracle.beginSession, s)
  refine ⟨inner', ?_⟩
  rw [tokenize, hd, Stage.deliver_relay]

/-- In a query of one word the stop word and the short word are dropped, the last word is stemmed in its
place, and the failure of the wrapped tokenizer ends the call. -/
theorem stemming_call_of_three_words :
    let words : FixedTokens :=
      { name := "words"
        tokens := [⟨"the", 0, 3, false⟩, ⟨"is", 4, 6, false⟩, ⟨"foxes", 7, 12, true⟩]
        failure := some (.delegate "boom") }
    let stage : Stage := ⟨⟨[.english], List.cons_ne_nil _ _⟩, 3⟩
    let access : Access Store Lookup (List Token) := (⟨[Table.english], {}⟩ : Holdings).access
    let sink : Sink (List Token) := fun token kept => (.ok .proceed, token :: kept)
    (fixed words : Tokenizer Store Lookup).Delivers "foxes" .forQuery words.tokens words.ending ∧
      ∃ inner' : Tokenizer Store Lookup,
        (stemming (fixed words) stage { store := .memory 0 }).tokenize "foxes" .forQuery access sink [] =
          (.error (.delegate "boom"),
            stemming inner' stage { store := .memory 0, handle := .connected (.table 0) },
            [⟨"fox", 7, 12, true⟩]) := by
  refine ⟨delivers_fixed _ _ _, ?_⟩
  obtain ⟨inner', h⟩ := stemming_call_is_walk (delivers_fixed _ "foxes" .forQuery) _ _ _ _ _
  refine ⟨inner', h.trans (Prod.ext ?_ (Prod.ext ?_ ?_))⟩
  · rfl
  · rfl
  · dsimp only
    decide +kernel

/-- Over a plain tokenizer the walk is along the tokens of its rule. -/
theorem tokenize_stemming {inner : Tokenizer S L} {rule : RunRule} (h : inner.rule? = some rule)
    (stage : Stage) (oracle : Oracle S L) (text : String) (mode : Mode) (access : Access S L σ)
    (sink : Sink σ) (s : σ) :
    let walked := stage.walk access (suppressesStopWords mode text) sink (.ok .proceed)
      (rule.tokens text) oracle.beginSession s
    (stemming inner stage oracle).tokenize text mode access sink s =
      (walked.1, stemming inner stage walked.2.1, walked.2.2) := by
  rw [tokenize, tokenize_of_rule? h, Stage.deliver_relay]

/-! ### What a call shows -/

/-- How a call ends, and the state that it leaves to sink and stores. -/
def outcome (t : Tokenizer S L) (access : Access S L σ) (text : String) (mode : Mode) (sink : Sink σ)
    (s : σ) : Except Error Flow × σ :=
  ((t.tokenize text mode access sink s).1, (t.tokenize text mode access sink s).2.2)

/-- The tokens that the sink is handed in a call, in order. -/
def handed (t : Tokenizer S L) (access : Access S L σ) (text : String) (mode : Mode) (sink : Sink σ)
    (s : σ) : List Token :=
  (t.tokenize text mode (access.beside (List Token)) sink.noting ([], s)).2.2.1.reverse

/-- A stemming tokenizer with its oracle in another state. -/
def withOracle (oracle : Oracle S L) : Tokenizer S L → Tokenizer S L
  | stemming inner stage _ => stemming inner stage oracle
  | t => t

/-- Keeping a record of what the sink is handed changes nothing else. -/
theorem tokenize_noting {inner : Tokenizer S L} {rule : RunRule} (h : inner.rule? = some rule)
    (stage : Stage) (oracle : Oracle S L) (access : Access S L σ) (text : String) (mode : Mode)
    (sink : Sink σ) (s : σ) :
    let call := (stemming inner stage oracle).tokenize text mode access sink s
    (stemming inner stage oracle).tokenize text mode (access.beside (List Token)) sink.noting ([], s) =
      (call.1, call.2.1, ((stemming inner stage oracle).handed access text mode sink s).reverse,
        call.2.2) := by
  obtain ⟨tokens, -, hw⟩ := stage.walk_noting access (suppressesStopWords mode text) sink
    (.ok .proceed) (rule.tokens text) oracle.beginSession [] s
  simp only [handed, tokenize_stemming h, hw, List.reverse_reverse]

/-- Over a plain tokenizer the sink is handed some of the stemmed tokens, in order, whatever the stop-word
stores do. -/
theorem handed_stemming {inner : Tokenizer S L} {rule : RunRule} (h : inner.rule? = some rule)
    (stage : Stage) (oracle : Oracle S L) (access : Access S L σ) (text : String) (mode : Mode)
    (sink : Sink σ) (s : σ) :
    ((stemming inner stage oracle).handed access text mode sink s).Sublist
      (stage.stems (rule.tokens text)) := by
  obtain ⟨tokens, hs, hw⟩ := stage.walk_noting access (suppressesStopWords mode text) sink
    (.ok .proceed) (rule.tokens text) oracle.beginSession [] s
  rw [handed, tokenize_stemming h, hw, List.append_nil, List.reverse_reverse]
  exact hs

/-- The mode matters only as far as it decides whether stop words are suppressed. -/
theorem collect_stemming_congr {inner : Tokenizer S L} {rule : RunRule} (h : inner.rule? = some rule)
    {text : String} {mode mode' : Mode} (same : suppressesStopWords mode text = suppressesStopWords mode' text)
    (stage : Stage) (oracle : Oracle S L) (access : Access S L σ) (s : σ) :
    (stemming inner stage oracle).collect access text mode s =
      (stemming inner stage oracle).collect access text mode' s := by
  unfold collect
  rw [tokenize_stemming h, tokenize_stemming h, same]

/-- Over a plain tokenizer some of the stemmed tokens are collected, in order. -/
theorem collect_stemming_sublist {inner : Tokenizer S L} {rule : RunRule} (h : inner.rule? = some rule)
    {stage : Stage} {oracle : Oracle S L} {access : Access S L σ} {text : String} {mode : Mode} {s : σ}
    {tokens : List Token}
    (collected : ((stemming inner stage oracle).collect access text mode s).1 = .ok tokens) :
    tokens.Sublist (stage.stems (rule.tokens text)) := by
  -- to collect is to note what is handed to a sink that always wants more
  have noted : (Sink.collect : Sink (List Token × σ)) = Sink.noting fun _ s => (.ok .proceed, s) := rfl
  have some_stems := handed_stemming h stage oracle access text mode (fun _ s => (.ok .proceed, s)) s
  rw [collect, noted] at collected
  dsimp only at collected
  split at collected
  · obtain rfl := Except.ok.inj collected
    exact some_stems
  · cases collected

/-- What is collected are the tokens that a call delivers. -/
theorem collect_of_outcome {t : Tokenizer S L} {access : Access S L σ} {text : String} {mode : Mode}
    {tokens : List Token} {s : σ}
    (h : t.outcome (access.beside (List Token)) text mode Sink.collect ([], s) =
      deliver Sink.collect (.ok .proceed) tokens ([], s)) :
    (t.collect access text mode s).1 = .ok tokens := by
  rw [deliver_collect, List.append_nil, outcome] at h
  obtain ⟨answer, rest⟩ := Prod.mk.inj h
  simp only [collect, answer, rest, List.reverse_reverse]

/-- Tokens that are delivered to the end are those that are collected. -/
theorem Delivers.collect_eq {t : Tokenizer S L} {text : String} {mode : Mode} {tokens : List Token}
    (h : t.Delivers text mode tokens (.ok .proceed)) (access : Access S L σ) (s : σ) :
    (t.collect access text mode s).1 = .ok tokens := by
  obtain ⟨t', delivered⟩ := h (access.beside (List Token)) Sink.collect ([], s)
  exact collect_of_outcome (by rw [outcome, delivered])

/-- A plain tokenizer yields the tokens of its rule when they are collected. -/
theorem collect_of_rule? {t : Tokenizer S L} {rule : RunRule} (h : t.rule? = some rule)
    (access : Access S L σ) (text : String) (mode : Mode) (s : σ) :
    t.collect access text mode s = (.ok (rule.tokens text), t, s) := by
  rw [collect, tokenize_of_rule? h, deliver_collect]
  simp only [List.append_nil, List.reverse_reverse]

end Tokenizer

end TextAnalysis
