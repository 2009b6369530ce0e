import TextAnalysis.Proofs.Stem.Rule
import TextAnalysis.Stem.Arabic

/-!
# What Arabic stems leave of a word

Signs and punctuation are dropped from a word before any rule is tried. If that leaves something, the rules
do as well: each takes off fewer letters than the least number that it asks for.
-/

namespace TextAnalysis.Stem.Arabic

/-! ### Suffixes -/

/-- Every suffix is shorter than the words that it is taken off. -/
def Endings.Short (e : Endings) : Prop := ∀ g ∈ e, ∀ s ∈ g.1, s.toList.length < g.2

instance (e : Endings) : Decidable e.Short := inferInstanceAs (Decidable (∀ g ∈ e, _))

theorem Endings.off_ne (e : Endings) (w : List Char) (short : e.Short := by decide) :
    e.off w ≠ some [] := by
  intro h
  obtain ⟨⟨least, rest⟩, hf, h⟩ := Option.bind_eq_some_iff.mp h
  obtain ⟨enough, h⟩ := Option.ite_none_right_eq_some.mp h
  cases h
  obtain ⟨_, hm, rfl, -⟩ := Table.longest?_eq_some hf
  obtain ⟨g, hg, rfl, s, hs, rfl⟩ := Table.mem_ofGroups_iff.mp hm
  rw [List.append_nil, List.length_reverse] at enough
  exact Nat.not_le.mpr (short g hg s hs) enough

section

variable {a b : Option (List Char)} {w w' : List Char}

private theorem none_ne : (none : Option (List Char)) ≠ some [] := nofun

private theorem ne_nil_of_eq_some (ha : a ≠ some []) (h : a = some w) : w ≠ [] := by
  rintro rfl
  exact ha h

private theorem getD_ne_nil (ha : a ≠ some []) (hw : w ≠ []) : a.getD w ≠ [] := by
  cases h : a with
  | none => exact hw
  | some w' => exact ne_nil_of_eq_some ha h

private theorem or_ne (ha : a ≠ some []) (hb : b ≠ some []) : a.or b ≠ some [] := by
  cases a with
  | none => exact hb
  | some w => exact ha

private theorem ite_ne {p : Prop} [Decidable p] (ha : a ≠ some []) (hb : b ≠ some []) :
    (if p then a else b) ≠ some [] := by
  split
  · exact ha
  · exact hb

end

theorem verbPronouns_ne_nil (k : Nat) {w : List Char} (hw : w ≠ []) : verbPronouns k w ≠ [] := by
  induction k generalizing w with
  | zero => exact hw
  | succ k ih =>
    rw [verbPronouns]
    cases h : verbPronoun.off w with
    | none => exact hw
    | some w' => exact ih (ne_nil_of_eq_some (verbPronoun.off_ne w) h)

theorem verbSuffix_ne_nil {w : List Char} (hw : w ≠ []) : (verbSuffix w).1 ≠ [] := by
  have bare := verbPronouns_ne_nil w.length hw
  simp only [verbSuffix]
  split
  · exact getD_ne_nil (or_ne (verbEnding.off_ne _) (boundVerbEnding.off_ne _)) bare
  · split
    · next w' h => exact ne_nil_of_eq_some (or_ne (bareVerbEnding.off_ne _) (verbEnding.off_ne _)) h
    · exact bare

theorem beforePronoun_ne (w : List Char) : beforePronoun w ≠ some [] :=
  or_ne (or_ne (nounVowel.off_ne w) (nounAt.off_ne w)) (nounT.off_ne w)

theorem nounSuffix_ne_nil (defined : Bool) {w : List Char} (hw : w ≠ []) : nounSuffix defined w ≠ [] := by
  have noN : (nounN.off w).getD w ≠ [] := getD_ne_nil (nounN.off_ne w) hw
  simp only [nounSuffix]
  split
  · next w' h => exact ne_nil_of_eq_some (nounFeminine.off_ne w) h
  · split
    · next p h =>
      have bare := ne_nil_of_eq_some (ite_ne none_ne (nounPronoun.off_ne w)) h
      exact getD_ne_nil (beforePronoun_ne p) bare
    · split
      · next w' h => exact ne_nil_of_eq_some (ite_ne (beforePronoun_ne _) none_ne) h
      · exact getD_ne_nil (or_ne (ite_ne none_ne (nounVowel.off_ne _)) (nounAt.off_ne _)) noN

theorem suffixes_ne_nil (kind : Kind) {w : List Char} (hw : w ≠ []) : suffixes kind w ≠ [] := by
  have asVerb : (if kind.verb then verbSuffix w else (w, false)).1 ≠ [] := by
    split
    · exact verbSuffix_ne_nil hw
    · exact hw
  simp only [suffixes]
  generalize (if kind.verb then verbSuffix w else (w, false)) = v at asVerb ⊢
  have asNoun : (if kind.noun then nounSuffix kind.defined v.1 else v.1) ≠ [] := by
    split
    · exact nounSuffix_ne_nil _ asVerb
    · exact asVerb
  split
  · exact asVerb
  · split
    · next w' h => exact ne_nil_of_eq_some (ite_ne (nounAdjective.off_ne _) none_ne) h
    · split
      · exact List.cons_ne_nil _ _
      · exact asNoun

/-! ### Prefixes -/

private theorem mem_of_foldl_shortest {α : Type} {found : List (α × List Char)}
    {best : Option (α × List Char)} {e : α × List Char}
    (h : found.foldl (fun best e =>
      match best with
      | none => some e
      | some b => if e.2.length < b.2.length then some e else some b) best = some e) :
    best = some e ∨ e ∈ found := by
  induction found generalizing best with
  | nil => exact .inl h
  | cons first found ih =>
    rw [List.foldl_cons] at h
    obtain h | h := ih h
    · split at h
      · cases h
        exact .inr List.mem_cons_self
      · split at h
        · cases h
          exact .inr List.mem_cons_self
        · exact .inl h
    · exact .inr (List.mem_cons_of_mem _ h)

/-- What a word is found to begin with is an entry, with the letters after it. -/
theorem initial?_eq_some {α : Type} {table : List (List String × α)} {w rest : List Char} {a : α}
    (h : initial? table w = some (a, rest)) :
    ∃ g ∈ table, g.2 = a ∧ ∃ s ∈ g.1, w = s.toList ++ rest := by
  obtain h | h := mem_of_foldl_shortest h
  · cases h
  · obtain ⟨e, he, h⟩ := List.mem_filterMap.mp h
    obtain ⟨g, hg, he⟩ := List.mem_flatMap.mp he
    obtain ⟨s, hs, rfl⟩ := List.mem_map.mp he
    obtain ⟨rest', hr, h⟩ := Option.map_eq_some_iff.mp h
    cases h
    exact ⟨g, hg, rfl, s, hs, dropInitial?_eq_some_iff.mp hr⟩

/-- The letters of a word, those that are settled and those after them. -/
def Split.word (p : Split) : List Char := p.1 ++ p.2

theorem swapStart_ne {table : List (List String × Nat × String)} {p q : Split}
    (h : swapStart table p = some q)
    (short : ∀ g ∈ table, ∀ s ∈ g.1, s.toList.length < g.2.1 := by decide) : q.word ≠ [] := by
  obtain ⟨⟨⟨least, written⟩, rest⟩, hf, h⟩ := Option.bind_eq_some_iff.mp h
  obtain ⟨enough, h⟩ := Option.ite_none_right_eq_some.mp h
  cases h
  obtain ⟨g, hg, hv, s, hs, hw⟩ := initial?_eq_some hf
  have := short g hg s hs
  rw [hv] at this
  rw [hw, List.length_append] at enough
  apply List.length_pos_iff.mp
  simp only [Split.word, List.length_append]
  dsimp only at this enough
  omega

theorem conjunction_ne {p q : Split} (h : conjunction p = some q) : q.word ≠ [] :=
  swapStart_ne (Option.ite_none_left_eq_some.mp h).2

theorem preposition_ne {p q : Split} (h : preposition p = some q) : q.word ≠ [] :=
  swapStart_ne (Option.ite_none_left_eq_some.mp h).2

private theorem getD_word_ne_nil (f : Split → Option Split) (hf : ∀ {p q}, f p = some q → q.word ≠ [])
    {p : Split} (hp : p.word ≠ []) : ((f p).getD p).word ≠ [] := by
  cases h : f p with
  | none => exact hp
  | some q => exact hf h

theorem prefixes_ne_nil (kind : Kind) {word : List Char} (hw : word ≠ []) : prefixes kind word ≠ [] := by
  have start : Split.word ([], word) ≠ [] := hw
  have bare := getD_word_ne_nil conjunction conjunction_ne (getD_word_ne_nil hamza swapStart_ne start)
  change Split.word _ ≠ []
  split
  · next q h =>
    obtain h | ⟨-, h⟩ := Option.or_eq_some_iff.mp h
    · exact swapStart_ne h
    · exact preposition_ne (Option.ite_none_right_eq_some.mp h).2
  · split
    · exact getD_word_ne_nil tenthForm swapStart_ne (getD_word_ne_nil future swapStart_ne bare)
    · exact bare

theorem finish_ne_nil {word : List Char} (hw : word ≠ []) : finish word ≠ [] := by
  rw [finish]
  refine mt respell_eq_nil_iff.mp ?_
  split
  · split
    · exact mt List.reverse_eq_nil_iff.mp (List.cons_ne_nil _ _)
    · exact hw
  · next h => exact absurd (List.reverse_eq_nil_iff.mp h) hw

/-- Nothing is left of a word exactly if it is made of signs and escaped quotation marks. -/
theorem stem_eq_nil_iff (word : List Char) : stem word = [] ↔ prepare word = [] := by
  constructor
  · intro h
    by_cases hp : prepare word = []
    · exact hp
    · have bare := suffixes_ne_nil (kindOf word) (mt List.reverse_eq_nil_iff.mp hp)
      exact absurd h (finish_ne_nil (prefixes_ne_nil _ (mt List.reverse_eq_nil_iff.mp bare)))
  · intro h
    have all : ∀ noun verb defined : Bool, 
       let kind : Kind := ⟨noun, verb, defined⟩
       finish (prefixes kind (suffixes kind []).reverse) = [] := by decide +kernel
    simp only [stem, h]
    exact all (kindOf word).noun (kindOf word).verb (kindOf word).defined

end TextAnalysis.Stem.Arabic
