import TextAnalysis.Proofs.Text.Marks
import TextAnalysis.Proofs.Tokenizer.Stopping

/-!
# Diacritics in tokens

Where diacritics are not kept, marks that stand in a text by themselves are left out of its tokens, and a letter
with one mark becomes its base. What is done to a mark that comes into being when a letter is made small is
another matter: there is one such letter.
-/

namespace TextAnalysis

open StopWords

namespace Diacritics

/-- A character without a decomposition is left as it is. -/
theorem strip_of_whole {d : Diacritics} {c : Char} (whole : Text.decompose c = [c]) : d.strip c = c := by
  rw [strip]
  split
  · rfl
  · rw [base?, whole]
    cases mark : Text.isCombiningMark c <;> simp [mark]

/-- A base with one mark becomes the base, unless diacritics are kept. -/
theorem strip_of_marked {d : Diacritics} (treated : d ≠ .keep) {c base mark : Char}
    (marked : Text.Marked c base mark) : d.strip c = base := by
  have beyond : ¬ c.toNat < 128 := marked.regular.ge.not_gt
  rw [strip, if_neg (not_or.mpr ⟨treated, beyond⟩), base?, marked.parts]
  simp [marked.base_eq, marked.mark_eq]

/-- No mark comes in the place of a character that is none. -/
theorem isCombiningMark_strip {d : Diacritics} {c : Char} (h : Text.isCombiningMark c = false) :
    Text.isCombiningMark (d.strip c) = false := by
  rw [strip]
  split
  · exact h
  · cases base : d.base? c with
    | none => exact h
    | some b =>
      have mem : b ∈ (Text.decompose c).filter fun p => !Text.isCombiningMark p := by
        rw [base?] at base
        split at base
        · next single =>
          obtain ⟨-, same⟩ := Option.ite_none_right_eq_some.mp base
          rw [single, Option.some.inj same]
          exact List.mem_cons_self
        · cases base
      simpa using (List.mem_filter.mp mem).2

end Diacritics

namespace UnicodeWords

variable {t : UnicodeWords}

/-- A combining mark leaves nothing, unless diacritics are kept. -/
theorem fold_of_mark (treated : t.diacritics ≠ .keep) {c : Char} (mark : Text.isCombiningMark c = true) :
    t.fold c = [] := by
  rw [fold, if_pos ⟨treated, mark⟩]

/-- Any other character leaves its small form without diacritics, if it has a small form of one character. -/
theorem fold_of_not_mark {c : Char} (h : Text.isCombiningMark c = false) (other : c ≠ 'İ') :
    t.fold c = [t.diacritics.strip (Text.small c)] := by
  rw [fold, if_neg (fun marked => Bool.false_ne_true (h.symm.trans marked.2)), Text.lowercase_of_ne other]
  rfl

/-- The capital with a dot above leaves the small letter and the dot. -/
theorem fold_dotted : t.fold 'İ' = ['i', '\u0307'] := by
  have dotted := Text.Marked.dotted
  have letter : t.diacritics.strip 'i' = 'i' := Diacritics.strip_of_whole dotted.decompose_small_base
  have dot : t.diacritics.strip '\u0307' = '\u0307' := Diacritics.strip_of_whole dotted.decompose_mark
  rw [fold, if_neg (fun marked => Bool.false_ne_true (dotted.not_mark.symm.trans marked.2))]
  change [t.diacritics.strip 'i', t.diacritics.strip '\u0307'] = _
  rw [letter, dot]

/-- What a character leaves has a mark only if it is the capital with a dot above. -/
theorem marks_fold (treated : t.diacritics ≠ .keep) (c : Char) :
    (t.fold c).filter Text.isCombiningMark = if c = 'İ' then ['\u0307'] else [] := by
  split
  · next dotted =>
    rw [dotted, fold_dotted]
    rfl
  · next other =>
    cases h : Text.isCombiningMark c with
    | true => rw [fold_of_mark treated h, List.filter_nil]
    | false =>
      have none := Diacritics.isCombiningMark_strip (d := t.diacritics) (Text.isCombiningMark_small h)
      rw [fold_of_not_mark h other, List.filter_cons_of_neg (Bool.eq_false_iff.mp none), List.filter_nil]

/-- What characters leave has one mark for each capital with a dot above. -/
theorem marks_foldAll (treated : t.diacritics ≠ .keep) (cs : List Char) :
    (t.runRule.foldAll cs).filter Text.isCombiningMark = List.replicate (cs.count 'İ') '\u0307' := by
  induction cs with
  | nil => rfl
  | cons c cs ih =>
    change (t.fold c ++ t.runRule.foldAll cs).filter Text.isCombiningMark = _
    rw [List.filter_append, ih, marks_fold treated, List.count_cons]
    by_cases dotted : c = 'İ'
    · rw [if_pos dotted, if_pos (beq_iff_eq.mpr dotted), List.replicate_succ, List.singleton_append]
    · rw [if_neg dotted, if_neg (mt beq_iff_eq.mp dotted), List.nil_append, Nat.add_zero]

end UnicodeWords

namespace Tokenizer

variable {S L σ : Type}

/-- If diacritics are not kept, a token of the Unicode tokenizer has as many combining marks as there are
capitals `I` with a dot above in its source, and they are the dots of these. So a token has no marks exactly if
there is no such letter in its source, whatever characters are taken into tokens or split at. -/
theorem handed_marks {t : UnicodeWords} (treated : t.diacritics ≠ .keep) (access : Access S L σ) (text : String)
    (mode : Mode) (sink : Sink σ) (s : σ) :
    ∀ token ∈ (unicode t : Tokenizer S L).handed access text mode sink s,
      ∃ source, token.source? text = some source ∧
        token.text.toList.filter Text.isCombiningMark = List.replicate (source.toList.count 'İ') '\u0307' ∧
        ((∀ c ∈ token.text.toList, Text.isCombiningMark c = false) ↔ 'İ' ∉ source.toList) := by
  intro token handed
  have delivers : (unicode t : Tokenizer S L).Delivers text mode (t.runRule.tokens text) (.ok .proceed) :=
    delivers_of_rule? rfl text mode
  obtain ⟨source, made⟩ := RunRule.tokenOf_of_mem ((delivers.handed_isPrefix access sink s).subset handed)
  have marks : token.text.toList.filter Text.isCombiningMark =
      List.replicate (source.toList.count 'İ') '\u0307' := by
    rw [made.text_eq, RunRule.foldText, String.toList_ofList, UnicodeWords.marks_foldAll treated]
  refine ⟨source, made.source?_eq, marks, ?_⟩
  calc (∀ c ∈ token.text.toList, Text.isCombiningMark c = false)
      ↔ token.text.toList.filter Text.isCombiningMark = [] := by simp
    _ ↔ source.toList.count 'İ' = 0 := by rw [marks, List.replicate_eq_nil_iff]
    _ ↔ 'İ' ∉ source.toList := List.count_eq_zero

/-- A mark that begins a word, as it is told to, and two marks on one letter leave no mark. -/
theorem handed_marks_of_accented_word :
    let t : UnicodeWords := { diacritics := .removeAll, overrides := { tokenChars := ['\u0301'] } }
    let handed := (unicode t : Tokenizer Store Lookup).handed ({} : Holdings).access "\u0301Ệ-İz" .forQuery
      (fun _ n => (.ok .proceed, n + 1)) 0
    t.diacritics ≠ .keep ∧ ⟨"e", 0, 5, false⟩ ∈ handed ∧
      ∃ source, Token.source? ⟨"e", 0, 5, false⟩ "\u0301Ệ-İz" = some source ∧ 'İ' ∉ source.toList ∧
        ∀ c ∈ "e".toList, Text.isCombiningMark c = false := by
  intro t handed
  have treated : t.diacritics ≠ .keep := by decide
  have mem : ⟨"e", 0, 5, false⟩ ∈ handed := by decide +kernel
  obtain ⟨source, place, -, unmarked⟩ := handed_marks treated _ _ _ _ _ _ mem
  have here : some source = some "\u0301Ệ" := place.symm.trans (by decide +kernel)
  have other : 'İ' ∉ source.toList := by
    rw [Option.some.inj here]
    decide +kernel
  exact ⟨treated, mem, source, place, other, unmarked.mpr other⟩

/-- The dot of a capital `I` stays as a combining mark, although all diacritics are to go. -/
theorem handed_mark_of_dotted_capital :
    (unicode { diacritics := .removeAll } : Tokenizer Store Lookup).handed ({} : Holdings).access "İ" .forDocument
        (fun _ n => (.ok .proceed, n + 1)) 0 = [⟨"i\u0307", 0, 2, false⟩] ∧
      '\u0307' ∈ "i\u0307".toList ∧ Text.isCombiningMark '\u0307' = true := by
  decide +kernel

end Tokenizer

end TextAnalysis
