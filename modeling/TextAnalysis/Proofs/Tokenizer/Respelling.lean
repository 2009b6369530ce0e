import Mathlib.Algebra.Order.BigOperators.Group.List
import Mathlib.Algebra.Order.Group.Nat
import TextAnalysis.Proofs.Tokenizer.Diacritics

/-!
# Texts in two spellings

A letter with a mark can be written as one character or as its base and the mark. Some letters of a text are
written the other way. The text falls into the same runs as before, letter by letter, and the tokens differ by what
the letters become in each spelling.
-/

namespace TextAnalysis

open StopWords

/-! ### The runs of items -/

/-- The items in runs: each begins where an item may begin one and goes on as long as items continue it. -/
def stretches {α : Type} (begins continues : α → Bool) : List α → List (List α)
  | [] => []
  | a :: as =>
    if begins a then (a :: as.takeWhile continues) :: stretches begins continues (as.dropWhile continues)
    else stretches begins continues as
termination_by as => as.length
decreasing_by
  · have := (List.dropWhile_suffix continues (l := as)).length_le
    simp only [List.length_cons]
    omega
  · simp only [List.length_cons]
    omega

section Stretches

variable {α : Type} {begins continues : α → Bool}

/-- The items in runs are items, in order. -/
theorem flatten_stretches_sublist (begins continues : α → Bool) (as : List α) :
    (stretches begins continues as).flatten.Sublist as := by
  induction as using stretches.induct begins continues with
  | case1 => rw [stretches]; exact List.Sublist.refl []
  | case2 a as h ih =>
    rw [stretches, if_pos h, List.flatten_cons, List.cons_append]
    have run := ih.append_left (as.takeWhile continues)
    rw [List.takeWhile_append_dropWhile] at run
    exact run.cons_cons a
  | case3 a as h ih => rw [stretches, if_neg h]; exact ih.cons a

/-- An item that may begin a run is in one. -/
theorem mem_flatten_stretches {a : α} (ha : begins a = true) {as : List α} (mem : a ∈ as) :
    a ∈ (stretches begins continues as).flatten := by
  induction as using stretches.induct begins continues with
  | case1 => cases mem
  | case2 b as h ih =>
    rw [stretches, if_pos h, List.flatten_cons, List.cons_append]
    obtain rfl | mem := List.mem_cons.mp mem
    · exact List.mem_cons_self
    · rw [← List.takeWhile_append_dropWhile (p := continues) (l := as)] at mem
      refine List.mem_cons_of_mem b ?_
      obtain mem | mem := List.mem_append.mp mem
      · exact List.mem_append_left _ mem
      · exact List.mem_append_right _ (ih mem)
  | case3 b as h ih =>
    rw [stretches, if_neg h]
    obtain rfl | mem := List.mem_cons.mp mem
    · exact absurd ha h
    · exact ih mem

end Stretches

namespace RunRule

variable {α : Type} {rule : RunRule}

/-- The characters can stand in the place of one in every run. -/
def Respells (rule : RunRule) (c : Char) (cs : List Char) : Prop :=
  cs = [c] ∨
    rule.begins c = true ∧ ∃ b ms, cs = b :: ms ∧ rule.begins b = true ∧ ∀ m ∈ ms, rule.continues m = true

/-- A character can stand in its own place. -/
theorem Respells.refl (rule : RunRule) (c : Char) : rule.Respells c [c] := .inl rfl

/-- What stands in the place of a character that continues a run continues it. -/
theorem Respells.continues (coherent : rule.Coherent) {c : Char} {cs : List Char} (h : rule.Respells c cs)
    (hc : rule.continues c = true) : ∀ d ∈ cs, rule.continues d = true := by
  obtain rfl | ⟨-, b, ms, rfl, hb, hms⟩ := h
  · simpa using hc
  · exact List.forall_mem_cons.mpr ⟨coherent b hb, hms⟩

/-- In the place of a character that begins no run there is only this character. -/
theorem Respells.eq_singleton {c : Char} {cs : List Char} (h : rule.Respells c cs)
    (hc : ¬ rule.begins c = true) : cs = [c] := by
  obtain same | ⟨begins, -⟩ := h
  · exact same
  · exact absurd begins hc

/-- In the place of a character that begins a run there is one that begins it, and others that continue it. -/
theorem Respells.eq_cons {c : Char} {cs : List Char} (h : rule.Respells c cs) (hc : rule.begins c = true) :
    ∃ b ms, cs = b :: ms ∧ rule.begins b = true ∧ ∀ m ∈ ms, rule.continues m = true := by
  obtain rfl | ⟨-, spelled⟩ := h
  · exact ⟨c, [], rfl, hc, by simp⟩
  · exact spelled

variable {one : α → Char} {many : α → List Char}

/-- The front of a text that continues a run is what stands for the items that continue it. -/
private theorem takeWhile_flatMap (coherent : rule.Coherent) {as : List α}
    (spelled : ∀ a ∈ as, rule.Respells (one a) (many a)) :
    (as.flatMap many).takeWhile rule.continues = (as.takeWhile fun a => rule.continues (one a)).flatMap many ∧
      (as.flatMap many).dropWhile rule.continues =
        (as.dropWhile fun a => rule.continues (one a)).flatMap many := by
  induction as with
  | nil => exact ⟨rfl, rfl⟩
  | cons a as ih =>
    obtain ⟨here, rest⟩ := List.forall_mem_cons.mp spelled
    rw [List.flatMap_cons]
    by_cases ha : rule.continues (one a) = true
    · have all := here.continues coherent ha
      rw [List.takeWhile_append_of_pos all, List.dropWhile_append_of_pos all, (ih rest).1, (ih rest).2,
        List.takeWhile_cons_of_pos (by exact ha), List.dropWhile_cons_of_pos (by exact ha), List.flatMap_cons]
      exact ⟨rfl, rfl⟩
    · have single := here.eq_singleton fun begins => ha (coherent _ begins)
      rw [single, List.singleton_append, List.takeWhile_cons_of_neg ha, List.dropWhile_cons_of_neg ha,
        List.takeWhile_cons_of_neg (by exact ha), List.dropWhile_cons_of_neg (by exact ha), List.flatMap_cons,
        single]
      exact ⟨rfl, rfl⟩

/-- A text that is spelled item by item falls into the runs of the items. -/
theorem characters_runs_flatMap (coherent : rule.Coherent) {as : List α}
    (spelled : ∀ a ∈ as, rule.Respells (one a) (many a)) (offset : Nat) :
    (rule.runs offset (as.flatMap many)).map Run.characters =
      (stretches (fun a => rule.begins (one a)) (fun a => rule.continues (one a)) as).map (·.flatMap many) := by
  induction as using stretches.induct (fun a => rule.begins (one a)) (fun a => rule.continues (one a))
    generalizing offset with
  | case1 => rw [List.flatMap_nil, runs, stretches]; rfl
  | case2 a as ha ih =>
    obtain ⟨here, rest⟩ := List.forall_mem_cons.mp spelled
    obtain ⟨b, ms, first, hb, hms⟩ := here.eq_cons ha
    obtain ⟨front, back⟩ := takeWhile_flatMap coherent rest
    have later := ih (fun a' mem => rest a' ((List.dropWhile_sublist _).subset mem))
    rw [stretches, if_pos ha, List.flatMap_cons, first, List.cons_append, runs_of_begins hb,
      List.takeWhile_append_of_pos hms, List.dropWhile_append_of_pos hms, front, back, List.map_cons, later,
      List.map_cons, List.flatMap_cons, first, List.cons_append]
  | case3 a as ha ih =>
    obtain ⟨here, rest⟩ := List.forall_mem_cons.mp spelled
    have single := here.eq_singleton ha
    rw [stretches, if_neg ha, List.flatMap_cons, single, List.singleton_append, runs_of_not_begins ha, ih rest]

/-! ### The texts of tokens -/

/-- The text of the token of a run, unless nothing is left of the run. -/
def text? (rule : RunRule) (cs : List Char) : Option String :=
  if rule.foldAll cs = [] then none else some (String.ofList (rule.foldAll cs))

/-- The texts of tokens are those of the runs. -/
theorem map_text_tokens (rule : RunRule) (text : String) :
    (rule.tokens text).map Token.text = ((rule.runs 0 text.toList).map Run.characters).filterMap rule.text? := by
  have same : (fun run => (rule.token? run).map Token.text) = rule.text? ∘ Run.characters := by
    funext run
    rw [Function.comp_apply, token?, text?]
    split <;> rfl
  rw [tokens, List.map_filterMap, List.filterMap_map, same]

/-- Together the texts of runs are what the runs become. -/
theorem flatMap_text? (rule : RunRule) (runs : List (List Char)) :
    (runs.filterMap rule.text?).flatMap String.toList = runs.flatMap rule.foldAll := by
  induction runs with
  | nil => rfl
  | cons run runs ih =>
    rw [List.flatMap_cons, ← ih]
    by_cases h : rule.foldAll run = []
    · rw [List.filterMap_cons_none (by rw [text?, if_pos h]), h, List.nil_append]
    · rw [List.filterMap_cons_some (by rw [text?, if_neg h]), List.flatMap_cons, String.toList_ofList]

private theorem flatMap_foldAll (rule : RunRule) (many : α → List Char) (runs : List (List α)) :
    (runs.map (·.flatMap many)).flatMap rule.foldAll = runs.flatten.flatMap fun a => rule.foldAll (many a) := by
  rw [List.flatMap_map, ← List.flatMap_id, List.flatMap_assoc]
  exact List.flatMap_congr fun run _ => List.flatMap_assoc

/-- Two texts that are spelled item by item have tokens of the same texts exactly if each item becomes the same in
both spellings, provided that each item that does not begins runs and becomes shorter in the first. -/
theorem map_text_tokens_eq_iff (coherent : rule.Coherent) {as : List α}
    (spelled : ∀ a ∈ as, rule.Respells (one a) (many a))
    (shorter : ∀ a ∈ as, rule.foldAll (many a) = rule.fold (one a) ∨
      rule.begins (one a) = true ∧ (rule.foldAll (many a)).length < (rule.fold (one a)).length) :
    (rule.tokens (String.ofList (as.flatMap many))).map Token.text =
        (rule.tokens (String.ofList (as.map one))).map Token.text ↔
      ∀ a ∈ as, rule.foldAll (many a) = rule.fold (one a) := by
  have fold_one (a : α) : rule.foldAll [one a] = rule.fold (one a) := List.flatMap_singleton rule.fold (one a)
  have single : as.map one = as.flatMap fun a => [one a] := List.map_eq_flatMap
  rw [map_text_tokens, map_text_tokens, String.toList_ofList, String.toList_ofList, single,
    characters_runs_flatMap coherent spelled, characters_runs_flatMap coherent fun a _ => .refl rule (one a)]
  generalize hr : stretches (fun a => rule.begins (one a)) (fun a => rule.continues (one a)) as = runs
  have inside : ∀ a ∈ runs.flatten, a ∈ as := fun a mem => (hr ▸ flatten_stretches_sublist _ _ as).subset mem
  constructor
  · intro same
    -- Otherwise all runs together would become shorter.
    by_contra differs
    obtain ⟨a, mem, ne⟩ := not_forall₂.mp differs
    obtain ⟨begins, less⟩ := (shorter a mem).resolve_left ne
    have total := congrArg (fun texts => (texts.flatMap String.toList).length) same
    simp only [flatMap_text?, flatMap_foldAll, List.length_flatMap, fold_one] at total
    have inRun : a ∈ runs.flatten := by
      rw [← hr]
      exact mem_flatten_stretches (by exact begins) mem
    refine absurd total (Nat.ne_of_lt (List.sum_lt_sum _ _ ?_ ⟨a, inRun, less⟩))
    intro b hb
    obtain equal | ⟨-, less⟩ := shorter b (inside b hb)
    · exact (congrArg List.length equal).le
    · exact less.le
  · intro same
    rw [List.filterMap_map, List.filterMap_map]
    refine List.filterMap_congr fun run hrun => ?_
    have folded : rule.foldAll (run.flatMap many) = rule.foldAll (run.flatMap fun a => [one a]) := by
      rw [foldAll, foldAll, List.flatMap_assoc, List.flatMap_assoc]
      refine List.flatMap_congr fun a mem => ?_
      exact (same a (inside a (List.mem_flatten.mpr ⟨run, hrun, mem⟩))).trans (fold_one a).symm
    rw [Function.comp_apply, Function.comp_apply, text?, text?, folded]

end RunRule

/-! ### Letters with a mark in two spellings -/

/-- A letter or number that is a base with one mark. -/
def Text.IsAccented (c : Char) : Prop := isAlphanumeric c = true ∧ ∃ base mark, Marked c base mark

/-- A text whose characters are marked if they are to be written as their parts. -/
abbrev Text.Letters := List (Char × Bool)

namespace Text.Letters

/-- The text as it stands. -/
def written (letters : Letters) : String := String.ofList (letters.map Prod.fst)

/-- The characters of a letter, or its parts if these are to be written. -/
def spelling (letter : Char × Bool) : List Char := if letter.2 then decompose letter.1 else [letter.1]

/-- The text with the parts of the letters that are marked. -/
def respelled (letters : Letters) : String := String.ofList (letters.flatMap spelling)

end Text.Letters

namespace UnicodeWords

variable {t : UnicodeWords} {c base mark : Char}

/-- If diacritics are not kept, a base and its mark become the small base. -/
theorem foldAll_decompose (treated : t.diacritics ≠ .keep) (h : Text.Marked c base mark) :
    t.runRule.foldAll (Text.decompose c) = [Text.small base] := by
  change (Text.decompose c).flatMap t.fold = _
  rw [h.parts, List.flatMap_cons, List.flatMap_singleton, fold_of_mark treated h.mark_eq, List.append_nil,
    fold_of_not_mark h.base_eq h.base_ne, Diacritics.strip_of_whole h.decompose_small_base]

/-- A letter with the mark becomes the small base as well, if its small form is one character. -/
theorem fold_of_marked (treated : t.diacritics ≠ .keep) (h : Text.Marked c base mark) (other : c ≠ 'İ') :
    t.fold c = [Text.small base] := by
  rw [fold_of_not_mark h.not_mark other, Diacritics.strip_of_marked treated (h.small other)]

/-- Where nothing else is said, letters and numbers begin words. -/
theorem begins_of_isAlphanumeric (d : Diacritics) (letter : Text.isAlphanumeric c = true) :
    (runRule { diacritics := d }).begins c = true := by
  change (Text.isAlphanumeric c || isPrivateUse c) = true
  rw [letter, Bool.true_or]

/-- Where nothing else is said, the parts of an accented letter stand in its place in every word. -/
theorem respells_decompose (d : Diacritics) (accented : Text.IsAccented c) :
    (runRule { diacritics := d }).Respells c (Text.decompose c) := by
  obtain ⟨letter, base, mark, h⟩ := accented
  refine .inr ⟨begins_of_isAlphanumeric d letter, base, [mark], h.parts,
    begins_of_isAlphanumeric d (h.isAlphanumeric_base letter), ?_⟩
  intro m mem
  obtain rfl := List.mem_singleton.mp mem
  change (Text.isAlphanumeric m || isPrivateUse m || (Text.isCombiningMark m && true)) = true
  rw [h.mark_eq, Bool.and_true, Bool.or_true]

/-- The parts of an accented letter become what it becomes, if its small form is one character. -/
theorem foldAll_spelling (treated : t.diacritics ≠ .keep) {letter : Char × Bool}
    (accented : letter.2 = true → Text.IsAccented letter.1) (other : letter ≠ ('İ', true)) :
    t.runRule.foldAll (Text.Letters.spelling letter) = t.fold letter.1 := by
  obtain ⟨c, decomposed⟩ := letter
  cases decomposed with
  | false => exact List.flatMap_singleton t.fold c
  | true =>
    obtain ⟨-, base, mark, h⟩ := accented rfl
    have other : c ≠ 'İ' := fun dotted => other (by rw [dotted])
    exact (foldAll_decompose treated h).trans (fold_of_marked treated h other).symm

/-- The parts of the capital with a dot above become less than it becomes. -/
theorem length_foldAll_dotted (treated : t.diacritics ≠ .keep) :
    (t.runRule.foldAll (Text.Letters.spelling ('İ', true))).length < (t.fold 'İ').length := by
  change (t.runRule.foldAll (Text.decompose 'İ')).length < _
  rw [foldAll_decompose treated Text.Marked.dotted, fold_dotted]
  exact Nat.lt_succ_self 1

end UnicodeWords

namespace Tokenizer

variable {S L σ : Type}

/-- If diacritics are not kept and nothing else is said of characters, accented letters can be written as their
parts, any of them and in any text. The tokens then have the same texts as before exactly if the capital `I` with
a dot above is not among these letters. -/
theorem collect_respelled {d : Diacritics} (treated : d ≠ .keep) {letters : Text.Letters}
    (accented : ∀ c, (c, true) ∈ letters → Text.IsAccented c) (access : Access S L σ) (mode mode' : Mode)
    (s s' : σ) :
    ∃ tokens tokens',
      ((unicode { diacritics := d } : Tokenizer S L).collect access letters.written mode s).1 = .ok tokens ∧
      ((unicode { diacritics := d } : Tokenizer S L).collect access letters.respelled mode' s').1 = .ok tokens' ∧
      (tokens'.map Token.text = tokens.map Token.text ↔ ('İ', true) ∉ letters) := by
  let t : UnicodeWords := { diacritics := d }
  have delivers (text : String) (mode : Mode) :
      (unicode t : Tokenizer S L).Delivers text mode (t.runRule.tokens text) (.ok .proceed) :=
    delivers_of_rule? rfl text mode
  refine ⟨_, _, Delivers.collect_eq (delivers _ mode) access s, Delivers.collect_eq (delivers _ mode') access s',
    ?_⟩
  have spelled : ∀ letter ∈ letters, t.runRule.Respells letter.1 (Text.Letters.spelling letter) := by
    rintro ⟨c, decomposed⟩ mem
    cases decomposed with
    | false => exact .refl t.runRule c
    | true => exact UnicodeWords.respells_decompose d (accented c mem)
  have same (letter : Char × Bool) (mem : letter ∈ letters) (other : letter ≠ ('İ', true)) :
      t.runRule.foldAll (Text.Letters.spelling letter) = t.fold letter.1 :=
    UnicodeWords.foldAll_spelling treated (fun chosen => accented letter.1 (chosen ▸ mem)) other
  have dotted := UnicodeWords.length_foldAll_dotted (t := t) treated
  have shorter : ∀ letter ∈ letters,
      t.runRule.foldAll (Text.Letters.spelling letter) = t.fold letter.1 ∨
        t.runRule.begins letter.1 = true ∧
          (t.runRule.foldAll (Text.Letters.spelling letter)).length < (t.fold letter.1).length := by
    intro letter mem
    by_cases chosen : letter = ('İ', true)
    · subst chosen
      exact .inr ⟨UnicodeWords.begins_of_isAlphanumeric d (accented _ mem).1, dotted⟩
    · exact .inl (same letter mem chosen)
  refine (RunRule.map_text_tokens_eq_iff t.coherent spelled shorter).trans ⟨?_, ?_⟩
  · intro equal chosen
    exact absurd (congrArg List.length (equal _ chosen)) dotted.ne
  · intro none letter mem
    exact same letter mem fun chosen => none (chosen ▸ mem)

/-- Three letters of a text are written as their parts, and a capital `I` with a dot above stays. -/
theorem collect_respelled_of_three_letters :
    let letters : Text.Letters :=
      [('É', true), ('t', false), ('é', true), ('-', false), ('İ', false), ('Й', true)]
    let t : Tokenizer Store Lookup := unicode {}
    let access : Access Store Lookup Unit := ({} : Holdings).access
    letters.written = "Été-İЙ" ∧ letters.respelled = "E\u0301te\u0301-İИ\u0306" ∧
      (∀ c, (c, true) ∈ letters → Text.IsAccented c) ∧
      ∃ tokens tokens', (t.collect access letters.written .forDocument ()).1 = .ok tokens ∧
        (t.collect access letters.respelled .forQuery ()).1 = .ok tokens' ∧
        tokens'.map Token.text = ["ete", "i\u0307и"] ∧ tokens'.map Token.text = tokens.map Token.text := by
  intro letters t access
  have accented : ∀ c, (c, true) ∈ letters → Text.IsAccented c := by
    intro c mem
    simp only [letters, List.mem_cons, Prod.mk.injEq, and_true, Bool.true_eq_false, and_false, false_or,
      List.not_mem_nil, or_false] at mem
    obtain rfl | rfl | rfl := mem
    · exact ⟨by decide +kernel, 'E', '\u0301', by decide +kernel, by decide +kernel, by decide +kernel⟩
    · exact ⟨by decide +kernel, 'e', '\u0301', by decide +kernel, by decide +kernel, by decide +kernel⟩
    · exact ⟨by decide +kernel, 'И', '\u0306', by decide +kernel, by decide +kernel, by decide +kernel⟩
  obtain ⟨tokens, tokens', collected, collected', same⟩ :=
    collect_respelled (S := Store) (L := Lookup) (d := .removeSingle) (by decide) accented access .forDocument
      .forQuery () ()
  refine ⟨by decide +kernel, by decide +kernel, accented, tokens, tokens', collected, collected', ?_,
    same.mpr (by decide)⟩
  have texts : (t.collect access letters.respelled .forQuery ()).1.map (·.map Token.text) =
      .ok ["ete", "i\u0307и"] := by decide +kernel
  have collected' : (t.collect access letters.respelled .forQuery ()).1 = .ok tokens' := collected'
  rw [collected'] at texts
  exact Except.ok.inj texts

/-- The capital `I` with a dot above leaves the dot as a mark, and written as its parts it does not. -/
theorem collect_dotted_capital_in_two_spellings :
    let t : Tokenizer Store Lookup := unicode {}
    let access : Access Store Lookup Unit := ({} : Holdings).access
    Text.IsAccented 'İ' ∧ Text.decompose 'İ' = ['I', '\u0307'] ∧
      (t.collect access "İ" .forDocument ()).1 = .ok [⟨"i\u0307", 0, 2, false⟩] ∧
      (t.collect access "I\u0307" .forDocument ()).1 = .ok [⟨"i", 0, 3, false⟩] := by
  intro t access
  exact ⟨⟨by decide +kernel, 'I', '\u0307', Text.Marked.dotted⟩, Text.Marked.dotted.parts, by decide +kernel,
    by decide +kernel⟩

end Tokenizer

end TextAnalysis
