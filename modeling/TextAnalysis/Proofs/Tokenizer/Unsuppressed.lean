import TextAnalysis.Proofs.Tokenizer.Stemming

/-!
# Calls in which stop words stay

Stop words are looked for in no call but a query whose last term is complete and that has no space. In
every other call a stemming tokenizer over a plain one does the same, whatever stop-word store it was
built with and whatever its oracle has been through: it delivers the stemmed tokens of the text.
-/

namespace TextAnalysis

open StopWords

/-- Stop words stay in documents, in prefix queries and in phrases, and in no other texts. -/
theorem suppressesStopWords_eq_false_iff {mode : Mode} {text : String} :
    suppressesStopWords mode text = false ↔
      mode.query = false ∨ mode.partialTerm = true ∨ ' ' ∈ text.toList := by
  rw [suppressesStopWords]
  cases mode.query <;> cases mode.partialTerm <;> simp

namespace Tokenizer

variable {S L σ : Type}

/-- Where stop words stay, the stemmed tokens are delivered and the oracle does no more than begin a
session. -/
theorem tokenize_unsuppressed {inner : Tokenizer S L} {rule : RunRule} (h : inner.rule? = some rule)
    {mode : Mode} {text : String} (stay : suppressesStopWords mode text = false) (stage : Stage)
    (oracle : Oracle S L) (access : Access S L σ) (sink : Sink σ) (s : σ) :
    (stemming inner stage oracle).tokenize text mode access sink s =
      ((deliver sink (.ok .proceed) (stage.stems (rule.tokens text)) s).1,
        stemming inner stage oracle.beginSession,
        (deliver sink (.ok .proceed) (stage.stems (rule.tokens text)) s).2) := by
  rw [tokenize_stemming h, stay, Stage.walk_unsuppressed]

/-- What such a call shows is the delivery of the stemmed tokens. -/
theorem outcome_unsuppressed {inner : Tokenizer S L} {rule : RunRule} (h : inner.rule? = some rule)
    {mode : Mode} {text : String} (stay : suppressesStopWords mode text = false) (stage : Stage)
    (oracle : Oracle S L) (access : Access S L σ) (sink : Sink σ) (s : σ) :
    (stemming inner stage oracle).outcome access text mode sink s =
      deliver sink (.ok .proceed) (stage.stems (rule.tokens text)) s := by
  rw [outcome, tokenize_unsuppressed h stay]

/-- What the sink is handed in such a call is found by noting the delivery. -/
theorem handed_unsuppressed {inner : Tokenizer S L} {rule : RunRule} (h : inner.rule? = some rule)
    {mode : Mode} {text : String} (stay : suppressesStopWords mode text = false) (stage : Stage)
    (oracle : Oracle S L) (access : Access S L σ) (sink : Sink σ) (s : σ) :
    (stemming inner stage oracle).handed access text mode sink s =
      (deliver sink.noting (.ok .proceed) (stage.stems (rule.tokens text)) ([], s)).2.1.reverse := by
  rw [handed, tokenize_unsuppressed h stay]

/-- A stemming tokenizer delivers the stemmed tokens of whatever it wraps. -/
theorem Delivers.stemming {inner : Tokenizer S L} {mode : Mode} {text : String} {tokens : List Token}
    {ending : Except Error Flow} (h : inner.Delivers text mode tokens ending)
    (stay : suppressesStopWords mode text = false) (stage : Stage) (oracle : Oracle S L) :
    (stemming inner stage oracle).Delivers text mode (stage.stems tokens) ending := by
  intro σ access sink s
  obtain ⟨inner', delivered⟩ := h (access.beside (Oracle S L)) (stage.relay access false sink)
    (oracle.beginSession, s)
  refine ⟨Tokenizer.stemming inner' stage oracle.beginSession, ?_⟩
  rw [tokenize, stay, delivered, Stage.deliver_relay, Stage.walk_unsuppressed]

/-- The stop words of a text stay if it is a document or is read for an auxiliary function. -/
theorem suppressesStopWords_of_not_query {mode : Mode} (h : mode.query = false) (text : String) :
    suppressesStopWords mode text = false :=
  suppressesStopWords_eq_false_iff.mpr (.inl h)

/-- In calls in which stop words stay, two tokenizers of the same settings cannot be told apart, whatever
their stop-word stores, the states of their oracles and the ways to consult the stores: the sink has the
same calls and the result is the same, and both are those of a document. No store is consulted, an error
is one that the sink gave, and no connection comes or goes. Documents and auxiliary functions see the same
tokens of every text. -/
theorem unsuppressed_calls_agree {S' L' : Type} {settings : Settings} {kind : Plain} {store : S}
    {store' : S'} {fresh : Tokenizer S L} {fresh' : Tokenizer S' L'}
    (built : (Registry.plain : Registry S).build settings store (some kind.name) = .ok fresh)
    (built' : (Registry.plain : Registry S').build settings store' (some kind.name) = .ok fresh')
    {mode : Mode} {text : String}
    (stay : mode.query = false ∨ mode.partialTerm = true ∨ ' ' ∈ text.toList)
    (oracle : Oracle S L) (oracle' : Oracle S' L') (access : Access S L σ) (access' : Access S' L' σ)
    (sink : Sink σ) (s : σ) :
    let t := fresh.withOracle oracle
    let t' := fresh'.withOracle oracle'
    t.outcome access text mode sink s = t'.outcome access' text mode sink s ∧
      t.handed access text mode sink s = t'.handed access' text mode sink s ∧
      t.outcome access text mode sink s = t.outcome access text .forDocument sink s ∧
      t.handed access text mode sink s = t.handed access text .forDocument sink s ∧
      (∀ noted, (t.tokenize text mode access.noting (sink.beside _) (noted, s)).2.2.1 = noted) ∧
      (∀ e, (t.outcome access text mode sink s).1 = .error e →
        ∃ token ∈ t.handed access text mode sink s, ∃ s', (sink token s').1 = .error e) ∧
      (t.tokenize text mode access sink s).2.1.isConnected = t.isConnected ∧
      t.outcome access text .forAuxiliary sink s = t.outcome access text .forDocument sink s ∧
      t.handed access text .forAuxiliary sink s = t.handed access text .forDocument sink s := by
  obtain ⟨cascade, hc, rfl⟩ := Registry.of_build_plain built
  obtain ⟨cascade', hc', rfl⟩ := Registry.of_build_plain built'
  obtain rfl : cascade = cascade' := Except.ok.inj (hc.symm.trans hc')
  have hr := kind.rule?_tokenizer (S := S) (L := L) settings
  have hr' := kind.rule?_tokenizer (S := S') (L := L') settings
  have stays := suppressesStopWords_eq_false_iff.mpr stay
  have document : suppressesStopWords .forDocument text = false :=
    suppressesStopWords_of_not_query rfl text
  have auxiliary : suppressesStopWords .forAuxiliary text = false :=
    suppressesStopWords_of_not_query rfl text
  simp only [withOracle]
  refine ⟨?_, ?_, ?_, ?_, ?_, ?_, ?_, ?_, ?_⟩
  · rw [outcome_unsuppressed hr stays, outcome_unsuppressed hr' stays]
  · rw [handed_unsuppressed hr stays, handed_unsuppressed hr' stays]
  · rw [outcome_unsuppressed hr stays, outcome_unsuppressed hr document]
  · rw [handed_unsuppressed hr stays, handed_unsuppressed hr document]
  · intro noted
    rw [tokenize_unsuppressed hr stays, deliver_beside]
  · intro e he
    rw [outcome_unsuppressed hr stays] at he
    obtain ⟨tokens, -, hd, herr⟩ := deliver_noting sink (.ok .proceed)
      (Stage.stems ⟨cascade, settings.minTokenLength⟩ ((kind.rule settings).tokens text)) [] s
    rw [handed_unsuppressed hr stays, hd, List.append_nil, List.reverse_reverse]
    exact (herr e he).resolve_left nofun
  · rw [tokenize_unsuppressed hr stays]
    exact oracle.isConnected_beginSession
  · rw [outcome_unsuppressed hr auxiliary, outcome_unsuppressed hr document]
  · rw [handed_unsuppressed hr auxiliary, handed_unsuppressed hr document]

/-- A missing table that was found missing and a list of words read long ago make no difference to a
phrase. -/
theorem unsuppressed_phrases_agree :
    ∃ fresh fresh' : Tokenizer Store Lookup,
      (Registry.plain : Registry Store).build {} (.memory 0) (some Plain.ascii.name) = .ok fresh ∧
      (Registry.plain : Registry Store).build {} (.file "words") (some Plain.ascii.name) = .ok fresh' ∧
      ' ' ∈ "The foxes".toList ∧
      let t := fresh.withOracle { store := .memory 0, handle := .failed }
      let t' := fresh'.withOracle { store := .file "words", handle := .connected (.snapshot ["the"]) }
      let access : Access Store Lookup Nat := ({} : Holdings).access
      let sink : Sink Nat := fun _ n => (.ok .proceed, n + 1)
      t.handed access "The foxes" .forQuery sink 0 = [⟨"the", 0, 3, false⟩, ⟨"fox", 4, 9, false⟩] ∧
        t'.handed access "The foxes" .forQuery sink 0 = t.handed access "The foxes" .forQuery sink 0 := by
  have built := Registry.build_plain (S := Store) (L := Lookup) {} (.memory 0) .ascii
  have built' := Registry.build_plain (S := Store) (L := Lookup) {} (.file "words") .ascii
  have space : ' ' ∈ "The foxes".toList := by decide
  refine ⟨_, _, built, built', space, ?_, ?_⟩
  · decide +kernel
  · obtain ⟨-, h, -⟩ := unsuppressed_calls_agree built built' (.inr (.inr space))
      { store := .memory 0, handle := .failed }
      { store := .file "words", handle := .connected (.snapshot ["the"]) }
      ({} : Holdings).access ({} : Holdings).access (fun _ (n : Nat) => (.ok .proceed, n + 1)) 0
    exact h.symm

end Tokenizer

end TextAnalysis
