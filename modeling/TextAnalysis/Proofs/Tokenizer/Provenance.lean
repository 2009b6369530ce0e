import Mathlib.Data.List.Nodup
import TextAnalysis.Proofs.Tokenizer.Stemming

/-!
# Where tokens come from

A token that a stemming tokenizer hands on can be traced to the text: its place lies between characters,
is not empty and follows the places before it, and its text is the stem of the folded source. Stop words,
the sink and the mode decide only which tokens come.
-/

namespace TextAnalysis

open StopWords

/-- The place of a token in the input. -/
def Token.place (token : Token) : Nat × Nat := (token.start, token.stop)

/-- Of tokens in different places, what holds of a token at the place of one holds of that one. -/
theorem Token.any_place {tokens : List Token} (distinct : (tokens.map place).Nodup) (p : Token → Bool)
    {token : Token} (mem : token ∈ tokens) :
    (tokens.any fun other => other.place = token.place && p other) = p token := by
  rw [Bool.eq_iff_iff, List.any_eq_true]
  constructor
  · rintro ⟨other, ho, h⟩
    obtain ⟨hp, holds⟩ := Bool.and_eq_true_iff.mp h
    obtain rfl := List.inj_on_of_nodup_map distinct ho mem (of_decide_eq_true hp)
    exact holds
  · intro holds
    exact ⟨token, mem, Bool.and_eq_true_iff.mpr ⟨decide_eq_true rfl, holds⟩⟩

/-- No two tokens of a rule have the same place. -/
theorem RunRule.nodup_places (rule : RunRule) (text : String) :
    ((rule.tokens text).map Token.place).Nodup := by
  rw [List.Nodup, List.pairwise_map]
  refine (rule.tokens_pairwise text).imp_of_mem fun {token next} ht _ follows same => ?_
  obtain ⟨source, h⟩ := tokenOf_of_mem ht
  obtain ⟨hlt, -⟩ := h.bounds
  have start : token.start = next.start := congrArg Prod.fst same
  omega

namespace Stage

/-- Stemming leaves tokens in their places. -/
theorem map_place_stems (stage : Stage) (tokens : List Token) :
    ((stage.stems tokens).map Token.place).Sublist (tokens.map Token.place) := by
  rw [stems, List.map_map]
  exact List.filter_sublist.map Token.place

/-- Tokens that follow one another still do when they are stemmed. -/
theorem stems_pairwise (stage : Stage) {tokens : List Token}
    (h : tokens.Pairwise fun token next => token.stop ≤ next.start) :
    (stage.stems tokens).Pairwise fun token next => token.stop ≤ next.start := by
  rw [stems, List.pairwise_map]
  exact h.filter _

/-- Tokens may be picked before or after they are stemmed. -/
theorem stems_filter_of_agree (stage : Stage) {tokens : List Token} {p q : Token → Bool}
    (agree : ∀ token ∈ tokens, q (stage.stemmed token) = p token) :
    stage.stems (tokens.filter p) = (stage.stems tokens).filter q := by
  rw [stems, stems, List.filter_map, List.filter_filter, List.filter_filter]
  congr 1
  refine List.filter_congr fun token ht => ?_
  rw [Function.comp_apply, agree token ht, Bool.and_comm]

/-- Dropping stop words before stemming leaves the stemmed tokens at whose places no stop word stood. -/
theorem stems_filter (stage : Stage) {tokens : List Token}
    (distinct : (tokens.map Token.place).Nodup) (stops : String → Bool) :
    stage.stems (tokens.filter fun token => !stops token.text) =
      (stage.stems tokens).filter fun stem =>
        !tokens.any fun token => token.place = stem.place && stops token.text := by
  refine stage.stems_filter_of_agree fun token ht => ?_
  have here := Token.any_place distinct (fun other => stops other.text) ht
  exact congrArg (!·) here

end Stage

namespace Tokenizer

variable {S L σ : Type}

/-- Every token that a stemming tokenizer over a plain one hands on, with its oracle in any state, stands
between two characters of the text, and its text is the stem of its folded source, which is long enough.
The tokens follow one another, and their places are some of those of the plain tokenizer. -/
theorem handed_provenance {settings : Settings} {kind : Plain} {store : S} {fresh : Tokenizer S L}
    (built : (Registry.plain : Registry S).build settings store (some kind.name) = .ok fresh)
    (oracle : Oracle S L) (access : Access S L σ) (text : String) (mode : Mode) (sink : Sink σ) (s : σ) :
    ∃ cascade bare, settings.cascade = .ok cascade ∧
      fresh = stemming (kind.tokenizer settings) ⟨cascade, settings.minTokenLength⟩ { store } ∧
      ((kind.tokenizer settings : Tokenizer S L).collect access text mode s).1 = .ok bare ∧
      let tokens := (fresh.withOracle oracle).handed access text mode sink s
      (∀ token ∈ tokens, token.start < token.stop ∧ token.stop ≤ text.utf8ByteSize ∧
        token.colocated = false ∧
        ∃ source, token.source? text = some source ∧
          token.text = cascade.stem ((kind.rule settings).foldText source) ∧
          settings.minTokenLength ≤ ((kind.rule settings).foldText source).utf8ByteSize) ∧
      tokens.Pairwise (fun token next => token.stop ≤ next.start) ∧
      (tokens.map Token.place).Sublist (bare.map Token.place) := by
  obtain ⟨cascade, hc, rfl⟩ := Registry.of_build_plain built
  have hr := kind.rule?_tokenizer (S := S) (L := L) settings
  refine ⟨cascade, (kind.rule settings).tokens text, hc, rfl, ?_, ?_⟩
  · rw [collect_of_rule? hr]
  have hs := handed_stemming hr ⟨cascade, settings.minTokenLength⟩ oracle access text mode sink s
  refine ⟨?_, ?_, ?_⟩
  · intro token ht
    obtain ⟨raw, hraw, hl, rfl⟩ := Stage.mem_stems.mp (hs.subset ht)
    obtain ⟨source, h⟩ := RunRule.tokenOf_of_mem hraw
    obtain ⟨hlt, hle⟩ := h.bounds
    refine ⟨hlt, hle, h.colocated_eq, source, h.source?_eq, ?_, ?_⟩
    · rw [← h.text_eq]
      rfl
    · rw [← h.text_eq]
      exact hl
  · exact (Stage.stems_pairwise _ ((kind.rule settings).tokens_pairwise text)).sublist hs
  · exact (hs.map Token.place).trans (Stage.map_place_stems _ _)

/-- The places of two words count bytes, not characters, and hold the words as they were written. -/
theorem handed_provenance_of_two_words :
    ∃ fresh : Tokenizer Store Lookup,
      (Registry.plain : Registry Store).build {} (.memory 0) (some Plain.unicode.name) = .ok fresh ∧
      let tokens := (fresh.withOracle { store := .memory 0, handle := .failed }).handed
        ({} : Holdings).access "Ünder Foxes" .forDocument (fun _ n => (.ok .proceed, n + 1)) 0
      tokens = [⟨"under", 0, 6, false⟩, ⟨"fox", 7, 12, false⟩] ∧
      ∀ token ∈ tokens, token.start < token.stop ∧ token.stop ≤ 12 ∧
        ∃ source, token.source? "Ünder Foxes" = some source := by
  have built := Registry.build_plain (S := Store) (L := Lookup) {} (.memory 0) .unicode
  refine ⟨_, built, ?_, ?_⟩
  · decide +kernel
  · intro token ht
    obtain ⟨_, _, -, -, -, h, -⟩ := handed_provenance built _ _ _ _ _ _
    obtain ⟨hlt, hle, -, source, hs, -⟩ := h token ht
    exact ⟨hlt, hle, source, hs⟩

end Tokenizer

end TextAnalysis
