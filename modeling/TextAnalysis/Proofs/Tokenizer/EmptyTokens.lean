import TextAnalysis.Proofs.Stem.Cascade
import TextAnalysis.Proofs.Tokenizer.Stemming

/-!
# Empty tokens of a stemming tokenizer

A plain tokenizer never yields an empty token, and a short one is dropped before it is stemmed. After that
nothing looks at the stem, so that an empty stem is handed on as any other.
-/

namespace TextAnalysis

open StopWords

namespace Tokenizer

variable {S L σ : Type}

/-- A token that a stemming tokenizer over a plain one hands on is empty exactly if its folded source is
stemmed and the language that decides on it leaves nothing. Only five languages ever do so: Greek, Tamil
and Turkish, Arabic with a word that is made of signs, and English with two words that are nothing but an
ending. -/
theorem handed_empty_iff {settings : Settings} {kind : Plain} {store : S} {fresh : Tokenizer S L}
    (built : (Registry.plain : Registry S).build settings store (some kind.name) = .ok fresh)
    (oracle : Oracle S L) (access : Access S L σ) (text : String) (mode : Mode) (sink : Sink σ) (s : σ) :
    ∃ cascade, settings.cascade = .ok cascade ∧
      ∀ token ∈ (fresh.withOracle oracle).handed access text mode sink s,
        ∃ source, token.source? text = some source ∧
          let word := (kind.rule settings).foldText source
          (token.text = "" ↔
            leastStemLength ≤ word.utf8ByteSize ∧ word.utf8ByteSize ≤ greatestStemLength ∧
              ∃ l, cascade.DecidedBy word.toList l ∧ l.stem word.toList = []) ∧
          (token.text = "" → ∃ l ∈ cascade.languages, l.MayErase word.toList) := by
  obtain ⟨cascade, hc, rfl⟩ := Registry.of_build_plain built
  have hr := kind.rule?_tokenizer (S := S) (L := L) settings
  refine ⟨cascade, hc, ?_⟩
  intro token ht
  have hs := handed_stemming hr ⟨cascade, settings.minTokenLength⟩ oracle access text mode sink s
  obtain ⟨raw, hraw, -, rfl⟩ := Stage.mem_stems.mp (hs.subset ht)
  obtain ⟨source, h⟩ := RunRule.tokenOf_of_mem hraw
  have hw : (kind.rule settings).foldText source ≠ "" := h.text_eq ▸ h.text_ne
  have empty : (Stage.stemmed ⟨cascade, settings.minTokenLength⟩ raw).text =
      cascade.stem ((kind.rule settings).foldText source) := congrArg cascade.stem h.text_eq
  refine ⟨source, h.source?_eq, ?_, ?_⟩
  · rw [empty]
    exact cascade.stem_eq_empty_iff hw
  · intro he
    rw [empty] at he
    obtain ⟨-, -, l, decided, hl⟩ := (cascade.stem_eq_empty_iff hw).mp he
    exact ⟨l, decided.mem, Language.mayErase_of_stem_eq_nil (mt String.toList_eq_nil_iff.mp hw) hl⟩

/-- Two words of which Turkish leaves nothing are no empty tokens where Danish and French are stemmed. -/
theorem handed_nonempty_of_danish_and_french :
    let settings : Settings := { languages := ["danish", "french"] }
    ∃ fresh : Tokenizer Store Lookup,
      (Registry.plain : Registry Store).build settings (.memory 0) (some Plain.unicode.name) = .ok fresh ∧
      ∀ token ∈ (fresh.withOracle { store := .memory 0 }).handed ({} : Holdings).access "leri sınız"
        .forDocument (fun _ n => (.ok .proceed, n + 1)) 0, token.text ≠ "" := by
  intro settings
  have cascade : settings.cascade = .ok ⟨[.danish, .french], List.cons_ne_nil _ _⟩ := by rfl
  have built := Registry.build_plain (S := Store) (L := Lookup) settings (.memory 0) .unicode
  rw [cascade] at built
  refine ⟨_, built, ?_⟩
  intro token ht he
  obtain ⟨_, hc, h⟩ := handed_empty_iff built _ _ _ _ _ _
  obtain ⟨source, -, -, erased⟩ := h token ht
  obtain ⟨l, hl, may⟩ := erased he
  cases cascade.symm.trans hc
  simp only [List.mem_cons, List.not_mem_nil, or_false] at hl
  obtain rfl | rfl := hl
  · exact may
  · exact may

/-- The Turkish stem of a possessive ending that stands alone is empty, and is handed on. -/
theorem handed_empty_of_turkish :
    let settings : Settings := { languages := ["turkish"] }
    ∃ fresh : Tokenizer Store Lookup,
      (Registry.plain : Registry Store).build settings (.memory 0) (some Plain.unicode.name) = .ok fresh ∧
      (fresh.withOracle { store := .memory 0 }).handed ({} : Holdings).access "leri" .forDocument
        (fun _ n => (.ok .proceed, n + 1)) 0 = [⟨"", 0, 4, false⟩] := by
  intro settings
  refine ⟨_, Registry.build_plain (S := Store) (L := Lookup) settings (.memory 0) .unicode, ?_⟩
  decide +kernel

end Tokenizer

end TextAnalysis
