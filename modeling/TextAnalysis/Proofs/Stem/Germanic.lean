import TextAnalysis.Proofs.Stem.Rule
import TextAnalysis.Stem.Danish
import TextAnalysis.Stem.Dutch
import TextAnalysis.Stem.German
import TextAnalysis.Stem.Norwegian
import TextAnalysis.Stem.Swedish

/-!
# What the stems of Germanic languages leave of a word

Danish, Dutch, German, Norwegian and Swedish take no word away whole: their suffixes lie in regions that begin
after the first letter.
-/

namespace TextAnalysis.Stem

open Rule

variable {r : Regions} {n : Nat} {word : List Char}

/-! ### Danish, Norwegian and Swedish -/

/-- Where a suffix in R1 is found, what is before R1 stays when only the last letter goes. -/
theorem leaves_tail_within {suffixes : List String} (h : 0 < r.r1) (hs : ∀ s ∈ suffixes, s ≠ "") :
    Leaves r n fun r w =>
      chooseWithin Regions.r1 (Table.ofGroups [(suffixes, fun _ _ => some w.tail)]) r w := by
  intro w w' _ ha
  obtain ⟨⟨a, rest⟩, hf, ha⟩ := Option.bind_eq_some_iff.mp ha
  obtain ⟨_, hm, hw, hl⟩ := Table.longest?_eq_some hf
  obtain ⟨g, hg, rfl, s, ht, rfl⟩ := Table.mem_ofGroups_iff.mp hm
  rw [List.mem_singleton] at hg
  subst hg
  cases ha
  have hpos : 0 < s.toList.length := by
    rw [List.length_pos_iff]
    exact fun hn => hs s ht (String.toList_eq_nil_iff.mp hn)
  apply List.length_pos_iff.mp
  rw [List.length_tail, hw, List.length_append, List.length_reverse]
  omega

namespace Danish

theorem leaves_undouble : Leaves r n undouble := by
  intro w w' _ ha
  cases w with
  | nil => cases ha
  | cons c w =>
    cases w with
    | nil => cases ha
    | cons d w =>
      exact ne_nil_of_ite (List.cons_ne_nil _ _) ha

theorem leaves_consonantPair (h : 0 < r.r1) : Leaves r n consonantPair :=
  leaves_tail_within h (by decide)

theorem stem_ne_nil (hw : word ≠ []) : stem word ≠ [] := by
  have h := Regions.r1_ofSyllables_pos vowel 3 hw
  refine reduceBy_ne_nil ?_ hw
  grind [ending, superlative, derivation, inRegion, leaves_consonantPair, leaves_undouble]

end Danish

namespace Norwegian

theorem leaves_ending (h : 0 < r.r1) : Leaves r n ending := by
  have s : Leaves r r.r1 fun _ rest => if allowsS rest then some rest else none := leaves_where h
  grind [ending, inRegion]

theorem leaves_consonantPair (h : 0 < r.r1) : Leaves r n consonantPair :=
  leaves_tail_within h (by decide)

theorem stem_ne_nil (hw : word ≠ []) : stem word ≠ [] := by
  have h := Regions.r1_ofSyllables_pos vowel 3 hw
  refine reduceBy_ne_nil ?_ hw
  grind [derivation, inRegion, leaves_ending, leaves_consonantPair]

end Norwegian

namespace Swedish

theorem leaves_consonantPair (h : 0 < r.r1) : Leaves r n consonantPair :=
  leaves_tail_within h (by decide)

theorem stem_ne_nil (hw : word ≠ []) : stem word ≠ [] := by
  have h := Regions.r1_ofSyllables_pos vowel 3 hw
  refine reduceBy_ne_nil ?_ hw
  grind [ending, derivation, inRegion, leaves_consonantPair]

end Swedish

/-! ### German -/

namespace German

theorem prepare_ne_nil (hw : word ≠ []) : prepare word ≠ [] := by
  rw [prepare, Ne, markAfterVowel_eq_nil_iff, List.flatMap_eq_nil_iff]
  obtain ⟨c, cs, rfl⟩ := List.exists_cons_of_ne_nil hw
  intro h
  have hc := h c List.mem_cons_self
  split at hc <;> cases hc

theorem leaves_comparison (h : 0 < r.r1) : Leaves r n comparison := by
  have st : Leaves r 1 fun _ rest => if 4 ≤ rest.length then some rest else none :=
    leaves_where Nat.one_pos
  grind [comparison]

theorem stem_ne_nil (hw : word ≠ []) : stem word ≠ [] := by
  have hp := prepare_ne_nil hw
  have h1 := Regions.r1_ofSyllables_pos vowel 3 hp
  have h2 := Regions.r2_ofSyllables_pos vowel 3 hp
  refine mt respell_eq_nil_iff.mp (reduceBy_ne_nil ?_ hp)
  grind [inflection, derivation, leaves_comparison]

end German

/-! ### Dutch -/

namespace Dutch

theorem prepare_ne_nil (hw : word ≠ []) : prepare word ≠ [] := by
  simp only [prepare]
  split
  · exact List.cons_ne_nil _ _
  · exact mt markAfterVowel_eq_nil_iff.mp (mt respell_eq_nil_iff.mp hw)

theorem leaves_undouble : Leaves r n undouble :=
  (leaves_dropLast Nat.one_lt_two).onlyAfter (by decide)

theorem leaves_finalE : Leaves r n finalE :=
  .suffix (.inR1 (.after (.thenTry (leaves_delete Nat.one_pos) leaves_undouble)))

theorem leaves_afterEn : Leaves r n afterEn :=
  .inR1 (.after (.unlessAfter (.thenTry (leaves_delete Nat.one_pos) leaves_undouble)))

theorem leaves_abstractNoun (h : 0 < r.r2) : Leaves r n abstractNoun :=
  .suffix (.inR2 (.unlessAfter (.thenTry (leaves_delete h) (.suffix leaves_afterEn))))

theorem leaves_derivation (h : 0 < r.r2) (lostE : Bool) : Leaves r n (derivation lostE) := by
  cases lostE <;> grind [derivation, leaves_finalE, leaves_undouble]

theorem leaves_shorten : Leaves r n shorten := by
  intro w w' _ ha
  simp only [shorten] at ha
  split at ha
  · exact ne_nil_of_ite (List.cons_ne_nil _ _) ha
  · cases ha

theorem stem_ne_nil (hw : word ≠ []) : stem word ≠ [] := by
  have hp := prepare_ne_nil hw
  have h1 : 0 < (regions (prepare word)).r1 :=
    Nat.lt_of_lt_of_le (Regions.r1_ofSyllables_pos vowel 0 hp) (Nat.le_max_left _ _)
  have h2 : 0 < (regions (prepare word)).r2 := Regions.r2_ofSyllables_pos vowel 0 hp
  refine mt respell_eq_nil_iff.mp (mt List.reverse_eq_nil_iff.mp ?_)
  refine inTurn_ne_nil ?_ (Leaves.apply ?_ (mt List.reverse_eq_nil_iff.mp hp))
  · simp [leaves_finalE, leaves_abstractNoun h2, leaves_derivation h2, leaves_shorten]
  · grind [inflection, leaves_afterEn]

end Dutch

end TextAnalysis.Stem
