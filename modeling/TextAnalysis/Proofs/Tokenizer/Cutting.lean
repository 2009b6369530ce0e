import Mathlib.Data.List.TakeWhile
import TextAnalysis.Proofs.Tokenizer.Stemming

/-!
# Cutting a text at its runs

A text can be cut into runs and the gaps between them in exactly one way such that no run can be made
longer and no gap holds a character with which a run may begin. The Unicode tokenizer makes its tokens of
the runs of this cutting, in order, and passes over those of which nothing is left when they are folded.
-/

namespace TextAnalysis

open StopWords

/-- A run with the gap before it. -/
structure Piece where
  gap : List Char
  run : List Char
deriving Repr, DecidableEq

/-- A text in pieces: runs with the gaps before them, and the gap after the last run. -/
structure Cutting where
  pieces : List Piece
  rest : List Char
deriving Repr, DecidableEq

namespace Cutting

/-- The text that was cut. -/
def toList (c : Cutting) : List Char := (c.pieces.flatMap fun piece => piece.gap ++ piece.run) ++ c.rest

/-- The runs of some pieces that begin at byte `offset`. -/
def runsFrom : Nat → List Piece → List Run
  | _, [] => []
  | offset, piece :: pieces =>
    let start := offset + Text.byteLength piece.gap
    ⟨start, piece.run⟩ :: runsFrom (start + Text.byteLength piece.run) pieces

/-- The runs, each with the byte at which it begins. -/
def runs (c : Cutting) : List Run := runsFrom 0 c.pieces

/-- A cutting at the maximal runs: runs begin with a character that may begin one and go on with such as
continue it, up to the end of the text or a character that does not continue it. No run could begin within
a gap. -/
structure Maximal (begins continues : Char → Prop) (c : Cutting) : Prop where
  /-- No run could begin in a gap before a run. -/
  not_begins_gap : ∀ piece ∈ c.pieces, ∀ x ∈ piece.gap, ¬ begins x
  /-- No run could begin in the last gap. -/
  not_begins_rest : ∀ x ∈ c.rest, ¬ begins x
  /-- What is called a run is one. -/
  run_eq : ∀ piece ∈ c.pieces, ∃ first others, piece.run = first :: others ∧ begins first ∧
    ∀ x ∈ others, continues x
  /-- The character after a run does not continue it. -/
  not_continues : ∀ front piece back, c.pieces = front ++ piece :: back →
    ∀ x, (Cutting.mk back c.rest).toList.head? = some x → ¬ continues x

/-- The cutting with one piece more at its front. -/
def cons (piece : Piece) (c : Cutting) : Cutting := { c with pieces := piece :: c.pieces }

/-- The cutting with one character more at its front, which belongs to a gap. -/
def consGap (x : Char) : Cutting → Cutting
  | ⟨[], rest⟩ => ⟨[], x :: rest⟩
  | ⟨piece :: pieces, rest⟩ => ⟨{ piece with gap := x :: piece.gap } :: pieces, rest⟩

/-- Cuttings are made piece by piece from one gap. -/
@[elab_as_elim]
theorem cons_induction {motive : Cutting → Prop} (gap : ∀ rest, motive ⟨[], rest⟩)
    (cons : ∀ piece c, motive c → motive (c.cons piece)) (c : Cutting) : motive c := by
  obtain ⟨pieces, rest⟩ := c
  induction pieces with
  | nil => exact gap rest
  | cons piece pieces ih => exact cons piece ⟨pieces, rest⟩ ih

@[simp] theorem toList_cons (piece : Piece) (c : Cutting) :
    (c.cons piece).toList = piece.gap ++ (piece.run ++ c.toList) := by
  simp [toList, cons]

@[simp] theorem toList_consGap (x : Char) (c : Cutting) : (c.consGap x).toList = x :: c.toList := by
  obtain ⟨_ | ⟨piece, pieces⟩, rest⟩ := c <;> simp [toList, consGap]

variable {begins continues : Char → Prop}

/-- Without a run there is but one gap. -/
theorem maximal_nil_iff {rest : List Char} :
    Maximal begins continues ⟨[], rest⟩ ↔ ∀ x ∈ rest, ¬ begins x :=
  ⟨fun h => h.not_begins_rest, fun h => ⟨nofun, h, nofun, by simp⟩⟩

/-- A cutting is maximal if its first piece and the cutting of what follows are. -/
theorem maximal_cons_iff {piece : Piece} {c : Cutting} :
    Maximal begins continues (c.cons piece) ↔
      (∀ x ∈ piece.gap, ¬ begins x) ∧
      (∃ first others, piece.run = first :: others ∧ begins first ∧ ∀ x ∈ others, continues x) ∧
      (∀ x, c.toList.head? = some x → ¬ continues x) ∧ Maximal begins continues c := by
  constructor
  · intro h
    refine ⟨h.not_begins_gap piece (by simp [cons]), h.run_eq piece (by simp [cons]),
      h.not_continues [] piece c.pieces rfl, ?_⟩
    constructor
    · intro other ho
      exact h.not_begins_gap other (by simp [cons, ho])
    · exact h.not_begins_rest
    · intro other ho
      exact h.run_eq other (by simp [cons, ho])
    · intro front other back hc
      exact h.not_continues (piece :: front) other back (by simp [cons, hc])
  · rintro ⟨hg, hr, hn, h⟩
    constructor
    · intro other ho
      rcases List.mem_cons.mp ho with rfl | ho
      · exact hg
      · exact h.not_begins_gap other ho
    · exact h.not_begins_rest
    · intro other ho
      rcases List.mem_cons.mp ho with rfl | ho
      · exact hr
      · exact h.run_eq other ho
    · intro front other back hc
      rcases front with _ | ⟨first, front⟩
      · obtain ⟨rfl, rfl⟩ := List.cons.inj hc
        exact hn
      · exact h.not_continues front other back (List.cons.inj hc).2

/-- A gap can be made longer by a character that begins no run. -/
theorem Maximal.consGap {c : Cutting} (h : Maximal begins continues c) {x : Char} (hx : ¬ begins x) :
    Maximal begins continues (c.consGap x) := by
  obtain ⟨_ | ⟨piece, pieces⟩, rest⟩ := c
  · rw [Cutting.consGap, maximal_nil_iff]
    rw [maximal_nil_iff] at h
    simpa [hx] using h
  · change Maximal begins continues (Cutting.cons piece ⟨pieces, rest⟩) at h
    change Maximal begins continues (Cutting.cons { piece with gap := x :: piece.gap } ⟨pieces, rest⟩)
    rw [maximal_cons_iff] at h ⊢
    simpa [hx] using h

end Cutting

namespace RunRule

/-- The cutting of a text at the runs of the rule. -/
def cut (rule : RunRule) : List Char → Cutting
  | [] => ⟨[], []⟩
  | c :: cs =>
    if rule.begins c then
      (cut rule (cs.dropWhile rule.continues)).cons ⟨[], c :: cs.takeWhile rule.continues⟩
    else (cut rule cs).consGap c
termination_by cs => cs.length
decreasing_by
  · have := (List.dropWhile_suffix rule.continues (l := cs)).length_le
    simp only [List.length_cons]
    omega
  · simp only [List.length_cons]
    omega

/-- Cutting loses nothing. -/
@[simp] theorem toList_cut (rule : RunRule) (cs : List Char) : (rule.cut cs).toList = cs := by
  induction cs using cut.induct rule with
  | case1 => rw [cut]; rfl
  | case2 c cs hb ih => rw [cut, if_pos hb, Cutting.toList_cons, ih]; simp
  | case3 c cs hb ih => rw [cut, if_neg hb, Cutting.toList_consGap, ih]

private theorem head?_dropWhile_not {p : Char → Bool} {cs : List Char} {x : Char}
    (h : (cs.dropWhile p).head? = some x) : ¬ p x = true := by
  have hn := List.head?_dropWhile_not p cs
  rw [h] at hn
  simpa using hn

/-- A text is cut at maximal runs. -/
theorem maximal_cut (rule : RunRule) (cs : List Char) :
    (rule.cut cs).Maximal (fun c => rule.begins c = true) (fun c => rule.continues c = true) := by
  induction cs using cut.induct rule with
  | case1 =>
    rw [cut, Cutting.maximal_nil_iff]
    exact nofun
  | case2 c cs hb ih =>
    rw [cut, if_pos hb, Cutting.maximal_cons_iff, toList_cut]
    refine ⟨nofun, ⟨c, cs.takeWhile rule.continues, rfl, hb, ?_⟩, ?_, ih⟩
    · intro x hx
      exact List.mem_takeWhile_imp hx
    · intro x hx
      exact head?_dropWhile_not hx
  | case3 c cs hb ih =>
    rw [cut, if_neg hb]
    exact ih.consGap hb

private theorem cut_append_gap {rule : RunRule} {gap run cs : List Char} {c : Cutting}
    (hg : ∀ x ∈ gap, ¬ rule.begins x = true) (hc : rule.cut (run ++ cs) = c.cons ⟨[], run⟩) :
    rule.cut (gap ++ (run ++ cs)) = c.cons ⟨gap, run⟩ := by
  induction gap with
  | nil => exact hc
  | cons x gap ih =>
    obtain ⟨hx, hg⟩ := List.forall_mem_cons.mp hg
    rw [List.cons_append, cut, if_neg hx, ih hg]
    rfl

private theorem cut_append_run {rule : RunRule} {first : Char} {others cs : List Char}
    (hf : rule.begins first = true) (ho : ∀ x ∈ others, rule.continues x = true)
    (hn : ∀ x, cs.head? = some x → ¬ rule.continues x = true) :
    rule.cut (first :: others ++ cs) = (rule.cut cs).cons ⟨[], first :: others⟩ := by
  have stops : cs.takeWhile rule.continues = [] ∧ cs.dropWhile rule.continues = cs := by
    cases cs with
    | nil => exact ⟨rfl, rfl⟩
    | cons x cs => simp [hn x rfl]
  rw [List.cons_append, cut, if_pos hf, List.takeWhile_append_of_pos ho,
    List.dropWhile_append_of_pos ho, stops.1, stops.2, List.append_nil]

private theorem cut_of_not_begins {rule : RunRule} {gap : List Char}
    (hg : ∀ x ∈ gap, ¬ rule.begins x = true) : rule.cut gap = ⟨[], gap⟩ := by
  induction gap with
  | nil => rw [cut]
  | cons x gap ih =>
    obtain ⟨hx, hg⟩ := List.forall_mem_cons.mp hg
    rw [cut, if_neg hx, ih hg]
    rfl

/-- There is no other way to cut a text at maximal runs. -/
theorem eq_cut_of_maximal {rule : RunRule} {c : Cutting}
    (h : c.Maximal (fun x => rule.begins x = true) (fun x => rule.continues x = true)) :
    c = rule.cut c.toList := by
  induction c using Cutting.cons_induction with
  | gap rest => exact (cut_of_not_begins h.not_begins_rest).symm
  | cons piece c ih =>
    obtain ⟨hg, ⟨first, others, hr, hf, ho⟩, hn, h⟩ := Cutting.maximal_cons_iff.mp h
    have whole := cut_append_run hf ho hn
    rw [← hr, ← ih h] at whole
    rw [Cutting.toList_cons, cut_append_gap hg whole]

/-! ### Runs and places -/

private theorem runsFrom_consGap (offset : Nat) (x : Char) (c : Cutting) :
    Cutting.runsFrom offset (c.consGap x).pieces =
      Cutting.runsFrom (offset + x.utf8Size) c.pieces := by
  obtain ⟨_ | ⟨piece, pieces⟩, rest⟩ := c
  · rfl
  · simp only [Cutting.consGap, Cutting.runsFrom, Text.byteLength, Nat.add_assoc]

/-- The runs of a text are those of its cutting. -/
theorem runs_eq_runsFrom_cut (rule : RunRule) (offset : Nat) (cs : List Char) :
    rule.runs offset cs = Cutting.runsFrom offset (rule.cut cs).pieces := by
  induction offset, cs using runs.induct rule with
  | case1 offset => rw [runs, cut]; rfl
  | case2 offset c cs hb ih =>
    rw [runs, if_pos hb, cut, if_pos hb, ih]
    rfl
  | case3 offset c cs hb ih => rw [runs, if_neg hb, cut, if_neg hb, runsFrom_consGap, ih]

end RunRule

/-- A place in two lists that follow one another is a place in one of them. -/
private theorem place_of_append {first second front back : List Char} {x : Char}
    (h : first ++ second = front ++ x :: back) :
    (∃ left, first = front ++ x :: left) ∨
      ∃ front', front = first ++ front' ∧ second = front' ++ x :: back := by
  rcases List.append_eq_append_iff.mp h with ⟨front', hf, hs⟩ | ⟨left, hf, hs⟩
  · exact .inr ⟨front', hf, hs⟩
  · cases left with
    | nil => exact .inr ⟨[], by simpa using hf.symm, by simpa using hs.symm⟩
    | cons y left =>
      obtain ⟨rfl, -⟩ := List.cons.inj hs
      exact .inl ⟨left, hf⟩

/-- A character with which a run may begin lies in one of the runs. -/
theorem Cutting.Maximal.exists_run {begins continues : Char → Prop} {c : Cutting}
    (h : c.Maximal begins continues) (offset : Nat) {front back : List Char} {x : Char}
    (hc : c.toList = front ++ x :: back) (hx : begins x) :
    ∃ run ∈ runsFrom offset c.pieces, run.start ≤ offset + Text.byteLength front ∧
      offset + Text.byteLength front < run.stop := by
  induction c using Cutting.cons_induction generalizing offset front with
  | gap rest =>
    have inRest : x ∈ rest := by
      change rest = _ at hc
      simp [hc]
    exact absurd hx (h.not_begins_rest x inRest)
  | cons piece c ih =>
    obtain ⟨hg, -, -, h⟩ := Cutting.maximal_cons_iff.mp h
    rw [Cutting.toList_cons] at hc
    rcases place_of_append hc with ⟨left, hgap⟩ | ⟨front, rfl, afterGap⟩
    · exact absurd hx (hg x (by simp [hgap]))
    · rcases place_of_append afterGap with ⟨left, hrun⟩ | ⟨front, rfl, afterRun⟩
      · refine ⟨⟨offset + Text.byteLength piece.gap, piece.run⟩, List.mem_cons_self, ?_, ?_⟩
        · simp only [Text.byteLength_append]
          omega
        · have := x.utf8Size_pos
          simp only [Run.stop, hrun, Text.byteLength_append, Text.byteLength]
          omega
      · obtain ⟨run, hm, hs, ht⟩ := ih h _ afterRun
        refine ⟨run, List.mem_cons_of_mem _ hm, ?_, ?_⟩
        · simpa [Text.byteLength_append, Nat.add_assoc] using hs
        · simpa [Text.byteLength_append, Nat.add_assoc] using ht

/-- A run stands in the text at its place. -/
theorem RunRule.slice?_of_mem_runs {rule : RunRule} {text : String} {run : Run}
    (h : run ∈ rule.runs 0 text.toList) :
    Text.slice? text run.start run.stop = some (String.ofList run.characters) := by
  obtain ⟨front, back, ht, hs, -⟩ := mem_runs h
  rw [Nat.zero_add] at hs
  apply Text.slice?_eq_some_iff.mpr
  refine ⟨front, back, by rw [String.toList_ofList, ht], hs.symm, ?_⟩
  rw [Text.utf8ByteSize_ofList, Run.stop]

namespace UnicodeWords

/-- A character that may begin a token: no separator, and made a token character or by nature a letter, a
number or a character for private use. -/
def Begins (t : UnicodeWords) (c : Char) : Prop :=
  c ∉ t.overrides.separators ∧
    (c ∈ t.overrides.tokenChars ∨ Text.isAlphanumeric c = true ∨ isPrivateUse c = true)

/-- A character that may go on with a token: one that may begin it, or a combining mark of which nothing
else is said. -/
def Continues (t : UnicodeWords) (c : Char) : Prop :=
  t.Begins c ∨ Text.isCombiningMark c = true ∧ c ∉ t.overrides.separators ∧ c ∉ t.overrides.tokenChars

/-- The rule of the tokenizer lets the right characters begin a run. -/
theorem begins_runRule_iff (t : UnicodeWords) (c : Char) :
    t.runRule.begins c = true ↔ t.Begins c := by
  change t.isTokenChar c = true ↔ _
  simp only [isTokenChar, Overrides.verdict?, Begins]
  by_cases hs : c ∈ t.overrides.separators
  · simp [hs]
  · by_cases hc : c ∈ t.overrides.tokenChars <;> simp [hs, hc]

/-- The rule of the tokenizer lets the right characters continue a run. -/
theorem continues_runRule_iff (t : UnicodeWords) (c : Char) :
    t.runRule.continues c = true ↔ t.Continues c := by
  change t.continuesToken c = true ↔ _
  rw [continuesToken, Bool.or_eq_true, Continues]
  refine or_congr (begins_runRule_iff t c) ?_
  simp only [Overrides.verdict?]
  by_cases hs : c ∈ t.overrides.separators
  · simp [hs]
  · by_cases hc : c ∈ t.overrides.tokenChars <;> simp [hs, hc]

/-- Every character has a small form. -/
theorem lowercase_ne_nil (c : Char) : Text.lowercase c ≠ [] := by
  rw [Text.lowercase]
  split
  · exact List.cons_ne_nil _ _
  · exact List.cons_ne_nil _ _

/-- Nothing is left of a character exactly if it is a combining mark and diacritics are taken off. -/
theorem fold_eq_nil_iff (t : UnicodeWords) (c : Char) :
    t.fold c = [] ↔ t.diacritics ≠ .keep ∧ Text.isCombiningMark c = true := by
  rw [fold]
  split
  · next h => simp [h]
  · next h => simp [h, lowercase_ne_nil]

/-- Nothing is left of some characters exactly if they are all combining marks and diacritics are taken
off, or there is none. -/
theorem flatMap_fold_eq_nil_iff (t : UnicodeWords) {cs : List Char} (hne : cs ≠ []) :
    cs.flatMap t.fold = [] ↔
      t.diacritics ≠ .keep ∧ ∀ c ∈ cs, Text.isCombiningMark c = true := by
  rw [List.flatMap_eq_nil_iff]
  constructor
  · intro h
    obtain ⟨c, hc⟩ := List.exists_mem_of_ne_nil cs hne
    refine ⟨((t.fold_eq_nil_iff c).mp (h c hc)).1, ?_⟩
    intro c hc
    exact ((t.fold_eq_nil_iff c).mp (h c hc)).2
  · rintro ⟨hd, hm⟩ c hc
    exact (t.fold_eq_nil_iff c).mpr ⟨hd, hm c hc⟩

/-- The text has just one cutting at maximal runs. -/
theorem maximal_iff_eq_cut (t : UnicodeWords) (text : List Char) (c : Cutting) :
    c.toList = text ∧ c.Maximal t.Begins t.Continues ↔ c = t.runRule.cut text := by
  have begins : (fun c => t.runRule.begins c = true) = t.Begins :=
    funext fun c => propext (t.begins_runRule_iff c)
  have continues : (fun c => t.runRule.continues c = true) = t.Continues :=
    funext fun c => propext (t.continues_runRule_iff c)
  constructor
  · rintro ⟨rfl, h⟩
    rw [← begins, ← continues] at h
    exact RunRule.eq_cut_of_maximal h
  · rintro rfl
    rw [← begins, ← continues]
    exact ⟨t.runRule.toList_cut text, t.runRule.maximal_cut text⟩

/-- The token of a run: its folded characters, at its place. -/
def tokenOf (t : UnicodeWords) (run : Run) : Token where
  text := String.ofList (run.characters.flatMap t.fold)
  start := run.start
  stop := run.stop

private theorem filterMap_token? (t : UnicodeWords) (runs : List Run) :
    runs.filterMap t.runRule.token? =
      (runs.filter fun run => run.characters.flatMap t.fold ≠ []).map t.tokenOf := by
  induction runs with
  | nil => rfl
  | cons run runs ih =>
    by_cases hf : run.characters.flatMap t.fold = []
    · have skipped : t.runRule.token? run = none := if_pos hf
      rw [List.filterMap_cons_none skipped, ih, List.filter_cons_of_neg (by simp [hf])]
    · have made : t.runRule.token? run = some (t.tokenOf run) := if_neg hf
      rw [List.filterMap_cons_some made, ih, List.filter_cons_of_pos (by simp [hf]), List.map_cons]

/-- The Unicode tokenizer makes its tokens of the maximal runs of a text. There is exactly one way to cut
the text at such runs. Each run yields one token, in order, with the place of the run and with its folded
characters as text, unless nothing is left of these. That is so exactly if diacritics are taken off and the
run is of combining marks alone. Every character that may begin a token is at the place of a token or of a
run that is passed over, and no two tokens have part of their places in common. -/
theorem tokens_of_maximal_runs {S L σ : Type} (t : UnicodeWords) (access : Access S L σ) (text : String)
    (mode : Mode) (s : σ) :
    ∃ cutting : Cutting,
      (∀ other : Cutting, other.toList = text.toList ∧ other.Maximal t.Begins t.Continues ↔
        other = cutting) ∧
      (∀ run ∈ cutting.runs,
        Text.slice? text run.start run.stop = some (String.ofList run.characters) ∧
        (run.characters.flatMap t.fold = [] ↔
          t.diacritics ≠ .keep ∧ ∀ c ∈ run.characters, Text.isCombiningMark c = true)) ∧
      ∃ tokens : List Token,
        ((Tokenizer.unicode t : Tokenizer S L).collect access text mode s).1 = .ok tokens ∧
        tokens =
          (cutting.runs.filter fun run => run.characters.flatMap t.fold ≠ []).map t.tokenOf ∧
        (∀ front c back, text.toList = front ++ c :: back → t.Begins c →
          (∃ token ∈ tokens, token.start ≤ Text.byteLength front ∧
            Text.byteLength front < token.stop) ∨
          ∃ run ∈ cutting.runs, run.characters.flatMap t.fold = [] ∧
            run.start ≤ Text.byteLength front ∧ Text.byteLength front < run.stop) ∧
        tokens.Pairwise fun token next => token.stop ≤ next.start := by
  have runs_eq : t.runRule.runs 0 text.toList = (t.runRule.cut text.toList).runs :=
    t.runRule.runs_eq_runsFrom_cut 0 text.toList
  have tokens_eq : t.runRule.tokens text = _ := t.filterMap_token? (t.runRule.runs 0 text.toList)
  rw [runs_eq] at tokens_eq
  refine ⟨t.runRule.cut text.toList, t.maximal_iff_eq_cut text.toList, ?_, t.runRule.tokens text, ?_,
    tokens_eq, ?_, t.runRule.tokens_pairwise text⟩
  · intro run hr
    rw [← runs_eq] at hr
    obtain ⟨-, -, -, -, hne⟩ := RunRule.mem_runs hr
    exact ⟨RunRule.slice?_of_mem_runs hr, t.flatMap_fold_eq_nil_iff hne⟩
  · rw [Tokenizer.collect_of_rule? rfl]
  · intro front c back ht hc
    obtain ⟨whole, maximal⟩ := (t.maximal_iff_eq_cut text.toList _).mpr rfl
    obtain ⟨run, hr, hs, hl⟩ := maximal.exists_run 0 (whole.trans ht) hc
    rw [Nat.zero_add] at hs hl
    by_cases hf : run.characters.flatMap t.fold = []
    · exact .inr ⟨run, hr, hf, hs, hl⟩
    · refine .inl ⟨t.tokenOf run, ?_, hs, hl⟩
      rw [tokens_eq]
      exact List.mem_map.mpr ⟨run, List.mem_filter.mpr ⟨hr, by simp [hf]⟩, rfl⟩

/-- An acute accent that stands alone makes a run but no token. -/
example :
    let t : UnicodeWords := { overrides := { tokenChars := ['\u0301'] } }
    t.runRule.tokens "a \u0301 b" = [⟨"a", 0, 1, false⟩, ⟨"b", 5, 6, false⟩] := by
  decide +kernel

end UnicodeWords

end TextAnalysis
