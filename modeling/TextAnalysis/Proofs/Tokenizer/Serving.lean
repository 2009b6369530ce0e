import TextAnalysis.Proofs.Settings.Stored
import TextAnalysis.Proofs.Tokenizer.Provenance
import TextAnalysis.Proofs.Tokenizer.Unsuppressed

/-!
# Tokenizers that serve an index

An index may be served with other settings than it was built with, if they differ in the least length of a
token only. Such settings give tokenizers that see the same words and stem them alike. The index then has
just those of the tokens that the serving tokenizer makes of a text whose words were long enough for it.
-/

namespace TextAnalysis

open StopWords

variable {S L σ : Type}

/-- A stage that keeps tokens from a greater length on hands on those tokens of another stage of the same
languages that come from tokens of that length. -/
theorem Stage.stems_of_le (cascade : Cascade) {least greater : Nat} (le : least ≤ greater)
    {tokens : List Token} (distinct : (tokens.map Token.place).Nodup) :
    Stage.stems ⟨cascade, greater⟩ tokens =
      (Stage.stems ⟨cascade, least⟩ tokens).filter fun stem =>
        tokens.any fun token => token.place = stem.place && decide (greater ≤ token.size) := by
  have longer : Stage.stems ⟨cascade, greater⟩ tokens =
      Stage.stems ⟨cascade, least⟩ (tokens.filter fun token => greater ≤ token.size) := by
    have both (token : Token) : decide (greater ≤ token.size) =
        (decide (least ≤ token.size) && decide (greater ≤ token.size)) := by
      rw [Bool.eq_iff_iff]
      simpa using Nat.le_trans le
    rw [stems, stems, List.filter_filter, List.filter_congr fun token _ => both token]
    rfl
  rw [longer]
  exact Stage.stems_filter_of_agree _ fun token mem =>
    Token.any_place distinct (fun other => decide (greater ≤ other.size)) mem

namespace Settings

/-- Settings that serve an index have its languages. -/
theorem cascade_of_sameIndex {settings stored : Settings} (same : settings.SameIndex stored) :
    settings.cascade = stored.cascade := by
  obtain ⟨languages, -⟩ := same
  rw [cascade, cascade, resolve, resolve, languages]

end Settings

/-- A plain tokenizer is told the same by settings that serve an index as by those of the index. -/
theorem Plain.tokenizer_of_sameIndex {settings stored : Settings} (same : settings.SameIndex stored)
    (kind : Plain) : (kind.tokenizer settings : Tokenizer S L) = kind.tokenizer stored := by
  obtain ⟨-, diacritics, tokenChars, separators⟩ := same
  have overrides : settings.overrides = stored.overrides := by
    rw [Settings.overrides, Settings.overrides, tokenChars, separators]
  cases kind with
  | unicode => rw [tokenizer, tokenizer, overrides, Settings.diacritics, Settings.diacritics, diacritics]
  | ascii => rw [tokenizer, tokenizer, overrides]

namespace Tokenizer

/-- Where settings serve an index and have no greater least length, tokenizers over the plain ones of a kind
can be built of both settings or of neither. If they can, they wrap the same tokenizer. In every call in
which stop words stay, whatever the stores and oracles of the two, the tokenizer of the index delivers those
tokens of the other one that stand where the wrapped tokenizer has a token that is long enough for the
index. -/
theorem index_tokens_of_serves {settings stored : Settings} (serves : settings.serves stored = true)
    (le : settings.minTokenLength ≤ stored.minTokenLength) (kind : Plain) (store store' : S) :
    (∃ e, (Registry.plain : Registry S).build (L := L) settings store (some kind.name) = .error e ∧
        (Registry.plain : Registry S).build (L := L) stored store' (some kind.name) = .error e) ∨
      ∃ (inner : Tokenizer S L) (stage stage' : Stage),
        (Registry.plain : Registry S).build settings store (some kind.name) =
            .ok (stemming inner stage { store }) ∧
          (Registry.plain : Registry S).build stored store' (some kind.name) =
            .ok (stemming inner stage' { store := store' }) ∧
          ∀ (mode : Mode) (text : String),
            (mode.query = false ∨ mode.partialTerm = true ∨ ' ' ∈ text.toList) →
            ∀ (oracle oracle' : Oracle S L) (access access' : Access S L σ) (s : σ),
              ∃ bare tokens, (inner.collect access text mode s).1 = .ok bare ∧
                ((stemming inner stage oracle).collect access text mode s).1 = .ok tokens ∧
                let indexed := tokens.filter fun stem =>
                  bare.any fun token =>
                    token.place = stem.place && decide (stored.minTokenLength ≤ token.size)
                ((stemming inner stage' oracle').collect access' text mode s).1 = .ok indexed ∧
                  ∀ (sink : Sink σ) (s' : σ),
                    (stemming inner stage' oracle').outcome access' text mode sink s' =
                      deliver sink (.ok .proceed) indexed s' := by
  have same := (Settings.serves_iff settings stored).mp serves
  have cascades := Settings.cascade_of_sameIndex same
  rw [Registry.build_plain, Registry.build_plain, cascades, Plain.tokenizer_of_sameIndex same]
  cases known : stored.cascade with
  | error e => exact .inl ⟨e, rfl, rfl⟩
  | ok cascade =>
    refine .inr ⟨kind.tokenizer stored, _, _, rfl, rfl, ?_⟩
    intro mode text stay oracle oracle' access access' s
    have hr := kind.rule?_tokenizer (S := S) (L := L) stored
    have stays := suppressesStopWords_eq_false_iff.mpr stay
    refine ⟨(kind.rule stored).tokens text, Stage.stems ⟨cascade, settings.minTokenLength⟩ _, ?_,
      collect_of_outcome (outcome_unsuppressed hr stays _ _ _ _ _), ?_⟩
    · rw [collect_of_rule? hr]
    · rw [← Stage.stems_of_le cascade le ((kind.rule stored).nodup_places text)]
      exact ⟨collect_of_outcome (outcome_unsuppressed hr stays _ _ _ _ _),
        fun sink s' => outcome_unsuppressed hr stays _ _ _ _ _⟩

/-- An index of words of four bytes or more has one of the three words that a tokenizer for words of three
makes of a phrase. -/
theorem index_tokens_of_phrase :
    let settings : Settings := {}
    let stored : Settings := { minTokenLength := 4 }
    settings.serves stored = true ∧ settings.minTokenLength ≤ stored.minTokenLength ∧
      ∃ t t' : Tokenizer Store Lookup,
        (Registry.plain : Registry Store).build settings (.memory 0) (some Plain.ascii.name) = .ok t ∧
        (Registry.plain : Registry Store).build stored (.memory 0) (some Plain.ascii.name) = .ok t' ∧
        (t.collect ({} : Holdings).access "The red foxes" .forQuery ()).1 =
          .ok [⟨"the", 0, 3, false⟩, ⟨"red", 4, 7, false⟩, ⟨"fox", 8, 13, false⟩] ∧
        (t'.collect ({} : Holdings).access "The red foxes" .forQuery ()).1 =
          .ok [⟨"fox", 8, 13, false⟩] := by
  intro settings stored
  have serves : settings.serves stored = true := by decide
  have le : settings.minTokenLength ≤ stored.minTokenLength := by decide
  have space : ' ' ∈ "The red foxes".toList := by decide
  have built := Registry.build_plain (S := Store) (L := Lookup) settings (.memory 0) .ascii
  refine ⟨serves, le, ?_⟩
  obtain ⟨e, failed, -⟩ | ⟨inner, stage, stage', build, build', calls⟩ :=
    index_tokens_of_serves (L := Lookup) (σ := Unit) serves le .ascii (Store.memory 0) (.memory 0)
  · rw [built] at failed
    cases failed
  · obtain ⟨bare, tokens, whole, served, index, -⟩ := calls .forQuery _ (.inr (.inr space))
      { store := .memory 0 } { store := .memory 0 } ({} : Holdings).access ({} : Holdings).access ()
    rw [built] at build
    cases build
    have words : ((Plain.ascii.tokenizer settings : Tokenizer Store Lookup).collect
        ({} : Holdings).access "The red foxes" .forQuery ()).1 =
          .ok [⟨"the", 0, 3, false⟩, ⟨"red", 4, 7, false⟩, ⟨"foxes", 8, 13, false⟩] := by rfl
    have stems : ((stemming (Plain.ascii.tokenizer settings)
        ⟨⟨[.english], List.cons_ne_nil _ _⟩, settings.minTokenLength⟩ { store := .memory 0 } :
          Tokenizer Store Lookup).collect ({} : Holdings).access "The red foxes" .forQuery ()).1 =
          .ok [⟨"the", 0, 3, false⟩, ⟨"red", 4, 7, false⟩, ⟨"fox", 8, 13, false⟩] := by
      decide +kernel
    obtain rfl := Except.ok.inj (whole.symm.trans words)
    obtain rfl := Except.ok.inj (served.symm.trans stems)
    exact ⟨_, _, built, build', stems, index⟩

end Tokenizer

end TextAnalysis
