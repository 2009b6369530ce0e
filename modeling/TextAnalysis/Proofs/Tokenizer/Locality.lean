import TextAnalysis.Proofs.Tokenizer.Layers

/-!
# Texts with a separating character

A character that continues no run ends the run that is open, and what follows is read as if the text began
there. So the tokens of a text are those of the part before such a character and those of the part after
it, further into the text. Stemming tokenizers keep this law wherever stop words stay.
-/

namespace TextAnalysis

open StopWords

/-- The run as it is found `n` bytes further into the text. -/
def Run.shift (run : Run) (n : Nat) : Run := { run with start := run.start + n }

namespace RunRule

/-- Where a text begins moves its runs and changes nothing else. -/
theorem runs_add (rule : RunRule) (offset n : Nat) (cs : List Char) :
    rule.runs (offset + n) cs = (rule.runs offset cs).map (·.shift n) := by
  induction offset, cs using runs.induct rule with
  | case1 offset => simp only [runs, List.map_nil]
  | case2 offset c cs begins ih =>
    rw [runs_of_begins begins, runs_of_begins begins, List.map_cons, ← ih, Nat.add_right_comm]
    rfl
  | case3 offset c cs begins ih =>
    rw [runs_of_not_begins begins, runs_of_not_begins begins, ← ih, Nat.add_right_comm]

/-- A character that continues no run separates the runs before it from those after it. -/
theorem runs_append_cons {rule : RunRule} (coherent : rule.Coherent) {c : Char}
    (ends : rule.continues c = false) (offset : Nat) (front back : List Char) :
    rule.runs offset (front ++ c :: back) =
      rule.runs offset front ++ rule.runs (offset + Text.byteLength (front ++ [c])) back := by
  have notBegins : ¬ rule.begins c = true := fun begins => by
    rw [coherent c begins] at ends
    cases ends
  have notContinues : ¬ rule.continues c = true := Bool.eq_false_iff.mp ends
  induction offset, front using runs.induct rule with
  | case1 offset =>
    rw [List.nil_append, runs_of_not_begins notBegins, runs, List.nil_append, List.nil_append,
      Text.byteLength, Text.byteLength, Nat.add_zero]
  | case2 offset d front begins ih =>
    have whole : d :: front ++ [c] =
        (d :: front.takeWhile rule.continues) ++ (front.dropWhile rule.continues ++ [c]) := by
      rw [List.cons_append, List.cons_append, ← List.append_assoc, List.takeWhile_append_dropWhile]
    have run : (front ++ c :: back).takeWhile rule.continues = front.takeWhile rule.continues := by
      rw [List.takeWhile_append, List.takeWhile_cons_of_neg notContinues, List.append_nil]
      split
      · next all => exact ((List.takeWhile_prefix _).eq_of_length all).symm
      · rfl
    have rest : (front ++ c :: back).dropWhile rule.continues =
        front.dropWhile rule.continues ++ c :: back := by
      rw [List.dropWhile_append, List.dropWhile_cons_of_neg notContinues]
      split
      · next none => rw [List.isEmpty_iff.mp none, List.nil_append]
      · rfl
    rw [List.cons_append, runs_of_begins begins, runs_of_begins begins, run, rest, ih, whole,
      Text.byteLength_append _ (_ ++ [c]), Nat.add_assoc, List.cons_append]
  | case3 offset d front begins ih =>
    rw [List.cons_append, runs_of_not_begins begins, runs_of_not_begins begins, ih, List.cons_append,
      Text.byteLength, Nat.add_assoc]

/-- The token of a run is moved with the run. -/
theorem token?_shift (rule : RunRule) (run : Run) (n : Nat) :
    rule.token? (run.shift n) = (rule.token? run).map (·.shift n) := by
  rw [token?, token?]
  by_cases h : rule.foldAll run.characters = []
  · rw [if_pos h, if_pos (show rule.foldAll (run.shift n).characters = [] from h), Option.map_none]
  · rw [if_neg h, if_neg (show ¬ rule.foldAll (run.shift n).characters = [] from h), Option.map_some]
    simp only [Run.shift, Run.stop, Token.shift, Nat.add_right_comm]

/-- The tokens of a text with a separating character are those of the part before it and those of the part
after it, which stand further into the text. -/
theorem tokens_push_append {rule : RunRule} (coherent : rule.Coherent) {c : Char}
    (ends : rule.continues c = false) (front back : String) :
    rule.tokens (front.push c ++ back) =
      rule.tokens front ++ (rule.tokens back).map (·.shift (front.push c).utf8ByteSize) := by
  have characters : (front.push c ++ back).toList = front.toList ++ c :: back.toList := by simp
  have size : Text.byteLength (front.toList ++ [c]) = (front.push c).utf8ByteSize := by
    rw [← Text.byteLength_toList, String.toList_push]
  have moved : (rule.token? ∘ fun run => run.shift (front.push c).utf8ByteSize) =
      fun run => (rule.token? run).map (·.shift (front.push c).utf8ByteSize) :=
    funext fun run => rule.token?_shift run _
  rw [tokens, characters, runs_append_cons coherent ends, List.filterMap_append, size, runs_add,
    List.filterMap_map, moved, tokens, tokens, List.map_filterMap]

end RunRule

namespace Stage

/-- Tokens in two parts are stemmed part by part. -/
theorem stems_append (stage : Stage) (front back : List Token) :
    stage.stems (front ++ back) = stage.stems front ++ stage.stems back := by
  rw [stems, List.filter_append, List.map_append]
  rfl

/-- Stemming does not depend on where tokens stand. -/
theorem stems_map_shift (stage : Stage) (tokens : List Token) (n : Nat) :
    stage.stems (tokens.map (·.shift n)) = (stage.stems tokens).map (·.shift n) := by
  rw [stems, stems, List.filter_map, List.map_map, List.map_map]
  rfl

end Stage

namespace Tokenizer

variable {S L σ : Type}

/-- The character ends every token. For the Unicode tokenizer it is neither a token character nor a
combining mark of which nothing else is said, for the ASCII tokenizer it is no token character, and a
stemming tokenizer is as the one that it wraps. -/
def Separates : Tokenizer S L → Char → Prop
  | unicode t, c =>
    t.isTokenChar c = false ∧ ¬ (Text.isCombiningMark c = true ∧ t.overrides.verdict? c = none)
  | ascii t, c => t.isTokenChar c = false
  | fixed _, _ => False
  | stemming inner _ _, c => inner.Separates c

/-- Only tokens that are cut out of a text can be separated. -/
theorem Separates.overPlain {t : Tokenizer S L} {c : Char} (separates : t.Separates c) : t.OverPlain := by
  induction t with
  | unicode t => trivial
  | ascii t => trivial
  | fixed t => exact separates.elim
  | stemming inner stage oracle ih => exact ih separates

/-- A separating character continues no token of the Unicode tokenizer. -/
private theorem continues_of_separates {t : UnicodeWords} {c : Char}
    (h : (unicode t : Tokenizer S L).Separates c) : t.runRule.continues c = false := by
  obtain ⟨notToken, notMark⟩ := h
  change t.continuesToken c = false
  rw [UnicodeWords.continuesToken, notToken, Bool.false_or, Bool.and_eq_false_iff,
    Option.isNone_eq_false_iff]
  by_cases mark : Text.isCombiningMark c = true
  · exact .inr (Option.isSome_iff_ne_none.mpr fun none => notMark ⟨mark, none⟩)
  · exact .inl (Bool.eq_false_iff.mpr mark)

/-- The tokens before a separating character and those after it do not depend on each other. -/
theorem allTokens_push_append {t : Tokenizer S L} {c : Char} (separates : t.Separates c)
    (front back : String) :
    t.allTokens (front.push c ++ back) =
      t.allTokens front ++ (t.allTokens back).map (·.shift (front.push c).utf8ByteSize) := by
  induction t with
  | unicode t =>
    exact RunRule.tokens_push_append t.coherent (continues_of_separates separates) front back
  | ascii t => exact RunRule.tokens_push_append t.coherent separates front back
  | fixed t => exact separates.elim
  | stemming inner stage oracle ih =>
    rw [allTokens, ih separates, Stage.stems_append, Stage.stems_map_shift]
    rfl

/-- Where no stop words are suppressed, a tokenizer whose tokens can be separated delivers all tokens of the
text. -/
private theorem delivers_allTokens {t : Tokenizer S L} {c : Char} (separates : t.Separates c) {mode : Mode}
    {text : String} (stay : t.suppresses mode text = false) :
    t.Delivers text mode (t.allTokens text) (.ok .proceed) :=
  separates.overPlain.delivers stay

/-- A text with a separating character has the tokens of the part before it and then those of the part
after it, at the places that they have there and as many bytes further on as the character ends. So the
tokens of a word between two separating characters are the same as alone. This holds of the plain
tokenizers in every mode, and of the stemming tokenizers over them where stop words stay: always in
documents, for auxiliary functions and in prefix queries. -/
theorem collect_push_append {t : Tokenizer S L} {c : Char} (separates : t.Separates c) (mode : Mode)
    (access : Access S L σ) (s : σ) :
    (∀ front back : String,
      (mode.query = false ∨ mode.partialTerm = true ∨
        ∀ text ∈ [front.push c ++ back, front, back], t.suppresses mode text = false) →
      ∃ before after, (t.collect access front mode s).1 = .ok before ∧
        (t.collect access back mode s).1 = .ok after ∧
        (t.collect access (front.push c ++ back) mode s).1 =
          .ok (before ++ after.map (·.shift (front.push c).utf8ByteSize))) ∧
    ∀ (front word back : String) (d : Char), t.Separates d →
      (mode.query = false ∨ mode.partialTerm = true ∨
        ∀ text ∈ [front.push c ++ word.push d ++ back, word], t.suppresses mode text = false) →
      ∃ before tokens after, (t.collect access word mode s).1 = .ok tokens ∧
        (t.collect access (front.push c ++ word.push d ++ back) mode s).1 =
          .ok (before ++ tokens.map (·.shift (front.push c).utf8ByteSize) ++ after) := by
  have collected {text : String} (stay : t.suppresses mode text = false) :
      (t.collect access text mode s).1 = .ok (t.allTokens text) :=
    Delivers.collect_eq (delivers_allTokens separates stay) access s
  have stays {texts : List String} (h : mode.query = false ∨ mode.partialTerm = true ∨
      ∀ text ∈ texts, t.suppresses mode text = false) {text : String} (ht : text ∈ texts) :
      t.suppresses mode text = false := by
    rw [← or_assoc] at h
    exact h.elim (fun always => suppresses_eq_false always t text) fun stay => stay text ht
  constructor
  · intro front back stay
    refine ⟨t.allTokens front, t.allTokens back, collected (stays stay (by simp)),
      collected (stays stay (by simp)), ?_⟩
    rw [collected (stays stay (by simp)), allTokens_push_append separates]
  · intro front word back d separates' stay
    refine ⟨t.allTokens front, t.allTokens word,
      ((t.allTokens back).map (·.shift (word.push d).utf8ByteSize)).map
        (·.shift (front.push c).utf8ByteSize), collected (stays stay (by simp)), ?_⟩
    rw [collected (stays stay (by simp)), String.append_assoc, allTokens_push_append separates,
      allTokens_push_append separates', List.map_append, List.append_assoc]

/-- A dash of three bytes separates two phrases of a query, in which stop words stay. -/
theorem collect_phrases_with_dash :
    let t : Tokenizer Store Lookup :=
      stemming (.unicode {}) ⟨⟨[.english], List.cons_ne_nil _ _⟩, 3⟩ { store := .memory 0 }
    let access : Access Store Lookup Unit := ({} : Holdings).access
    t.Separates '—' ∧
      (∀ text ∈ ["The Ärzte".push '—' ++ "red Foxes", "The Ärzte", "red Foxes"],
        t.suppresses .forQuery text = false) ∧
      ∃ before after, (t.collect access "The Ärzte" .forQuery ()).1 = .ok before ∧
        (t.collect access "red Foxes" .forQuery ()).1 = .ok after ∧
        after = [⟨"red", 0, 3, false⟩, ⟨"fox", 4, 9, false⟩] ∧
        (t.collect access ("The Ärzte".push '—' ++ "red Foxes") .forQuery ()).1 =
          .ok (before ++ after.map (·.shift 13)) := by
  intro t access
  have separates : t.Separates '—' := ⟨by decide +kernel, by decide +kernel⟩
  have stay : ∀ text ∈ ["The Ärzte".push '—' ++ "red Foxes", "The Ärzte", "red Foxes"],
      t.suppresses .forQuery text = false := by decide +kernel
  obtain ⟨before, after, hb, ha, whole⟩ :=
    (collect_push_append separates .forQuery access ()).1 _ _ (.inr (.inr stay))
  refine ⟨separates, stay, before, after, hb, ha, ?_, whole⟩
  have tokens : t.allTokens "red Foxes" = [⟨"red", 0, 3, false⟩, ⟨"fox", 4, 9, false⟩] := by
    decide +kernel
  rw [Delivers.collect_eq (delivers_allTokens separates (stay _ (by simp)))] at ha
  exact (Except.ok.inj ha).symm.trans tokens

end Tokenizer

end TextAnalysis
