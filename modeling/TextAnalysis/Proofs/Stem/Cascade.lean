import TextAnalysis.Proofs.Stem.Arabic
import TextAnalysis.Proofs.Stem.English
import TextAnalysis.Proofs.Stem.Germanic
import TextAnalysis.Proofs.Stem.Romance
import TextAnalysis.Proofs.Stem.UralicAndSlavic
import TextAnalysis.Proofs.Text.Span
import TextAnalysis.Stem.Cascade

/-!
# Words that a cascade of languages takes away whole

A cascade leaves nothing of a word exactly if the language that decides on the word leaves nothing. Five of
the languages can: Greek, Tamil and Turkish take off whole words as suffixes, Arabic drops signs, and English
knows two words that are nothing but an ending.
-/

namespace TextAnalysis

namespace Language

/-- The words of which a language may leave nothing. Of Greek, Tamil and Turkish no more is said. -/
def MayErase : Language → List Char → Prop
  | arabic, word => Stem.Arabic.prepare word = []
  | english, word => word ∈ Stem.English.bareEndings
  | greek, _ | tamil, _ | turkish, _ => True
  | _, _ => False

theorem mayErase_of_stem_eq_nil {l : Language} {word : List Char} (hw : word ≠ [])
    (h : l.stem word = []) : l.MayErase word := by
  cases l with
  | arabic => exact (Stem.Arabic.stem_eq_nil_iff word).mp h
  | english => exact (Stem.English.stem_eq_nil_iff hw).mp h
  | greek | tamil | turkish => trivial
  | danish => exact Stem.Danish.stem_ne_nil hw h
  | dutch => exact Stem.Dutch.stem_ne_nil hw h
  | finnish => exact Stem.Finnish.stem_ne_nil hw h
  | french => exact Stem.French.stem_ne_nil hw h
  | german => exact Stem.German.stem_ne_nil hw h
  | hungarian => exact Stem.Hungarian.stem_ne_nil hw h
  | italian => exact Stem.Italian.stem_ne_nil hw h
  | norwegian => exact Stem.Norwegian.stem_ne_nil hw h
  | portuguese => exact Stem.Portuguese.stem_ne_nil hw h
  | romanian => exact Stem.Romanian.stem_ne_nil hw h
  | russian => exact Stem.Russian.stem_ne_nil hw h
  | spanish => exact Stem.Spanish.stem_ne_nil hw h
  | swedish => exact Stem.Swedish.stem_ne_nil hw h

/-- Greek, Tamil and Turkish do take away whole words. -/
example : (Language.greek.stem "ισε".toList, Language.tamil.stem "கொண்டிர்".toList,
    Language.turkish.stem "leri".toList) = ([], [], []) := by
  decide +kernel

end Language

/-! ### The first stem of another length -/

/-- The stem taken is that of the first stemmer that changes the length in bytes. -/
theorem firstChange?_eq_some_iff {token w : List Char} {stems : List (List Char → List Char)} :
    firstChange? token stems = some w ↔ ∃ before stem after, stems = before ++ stem :: after ∧
      (∀ other ∈ before, Text.byteLength (other token) = Text.byteLength token) ∧
      stem token = w ∧ Text.byteLength w ≠ Text.byteLength token := by
  induction stems with
  | nil => simp [firstChange?]
  | cons first stems ih =>
    rw [firstChange?]
    by_cases hf : Text.byteLength (first token) ≠ Text.byteLength token
    · rw [if_pos hf, Option.some_inj]
      constructor
      · rintro rfl
        exact ⟨[], first, stems, rfl, List.forall_mem_nil _, rfl, hf⟩
      · rintro ⟨before, stem, after, hs, same, rfl, -⟩
        cases before with
        | nil => cases hs; rfl
        | cons other before => cases hs; exact absurd (same _ List.mem_cons_self) hf
    · rw [if_neg hf, ih]
      constructor
      · rintro ⟨before, stem, after, rfl, same, hw⟩
        exact ⟨first :: before, stem, after, rfl,
          List.forall_mem_cons.mpr ⟨Decidable.not_not.mp hf, same⟩, hw⟩
      · rintro ⟨before, stem, after, hs, same, rfl, hl⟩
        cases before with
        | nil => cases hs; exact absurd hl hf
        | cons other before =>
          cases hs
          exact ⟨before, stem, after, rfl, (List.forall_mem_cons.mp same).2, rfl, hl⟩

namespace Cascade

/-- The language decides on a word: it is the first of the cascade whose stem has another length in
bytes. -/
def DecidedBy (c : Cascade) (word : List Char) (l : Language) : Prop :=
  ∃ before after, c.languages = before ++ l :: after ∧
    (∀ other ∈ before, Text.byteLength (other.stem word) = Text.byteLength word) ∧
    Text.byteLength (l.stem word) ≠ Text.byteLength word

theorem DecidedBy.mem {c : Cascade} {word : List Char} {l : Language} (h : c.DecidedBy word l) :
    l ∈ c.languages := by
  obtain ⟨before, after, hc, -⟩ := h
  rw [hc]
  exact List.mem_append_right _ List.mem_cons_self

theorem firstChange?_languages_eq_some_iff (c : Cascade) {word w : List Char} :
    firstChange? word (c.languages.map Language.stem) = some w ↔
      ∃ l, c.DecidedBy word l ∧ l.stem word = w := by
  rw [firstChange?_eq_some_iff]
  constructor
  · rintro ⟨before, stem, after, hs, same, rfl, hl⟩
    obtain ⟨languages, rest, hc, rfl, hr⟩ := List.map_eq_append_iff.mp hs
    obtain ⟨l, later, rfl, rfl, -⟩ := List.map_eq_cons_iff.mp hr
    exact ⟨l, ⟨languages, later, hc, List.forall_mem_map.mp same, hl⟩, rfl⟩
  · rintro ⟨l, ⟨before, after, hc, same, hl⟩, rfl⟩
    refine ⟨before.map Language.stem, l.stem, after.map Language.stem, ?_, List.forall_mem_map.mpr same,
      rfl, hl⟩
    rw [hc, List.map_append, List.map_cons]

/-- Nothing is left of a word exactly if it is stemmed and the language that decides leaves nothing. -/
theorem stem_eq_empty_iff (c : Cascade) {word : String} (hw : word ≠ "") :
    c.stem word = "" ↔
      leastStemLength ≤ word.utf8ByteSize ∧ word.utf8ByteSize ≤ greatestStemLength ∧
        ∃ l, c.DecidedBy word.toList l ∧ l.stem word.toList = [] := by
  have kept : word.toList ≠ [] := mt String.toList_eq_nil_iff.mp hw
  rw [stem, String.ofList_eq_empty_iff, stemWith, Text.byteLength_toList, ← and_assoc,
    ← firstChange?_languages_eq_some_iff]
  split
  · next sized =>
    cases firstChange? word.toList (c.languages.map Language.stem) with
    | none => simp [kept]
    | some w => simp [sized]
  · next sized => simp [sized, kept]

end Cascade

end TextAnalysis
