import TextAnalysis.Proofs.Stem.Rule
import TextAnalysis.Stem.French
import TextAnalysis.Stem.Italian
import TextAnalysis.Stem.Portuguese
import TextAnalysis.Stem.Romanian
import TextAnalysis.Stem.Spanish

/-!
# What the stems of Romance languages leave of a word

None of them takes a word away whole, for each of the three regions begins after the first letter.
-/

namespace TextAnalysis.Stem

open Rule

variable {r : Regions} {n : Nat} {word : List Char}

/-! ### French -/

namespace French

theorem prepare_ne_nil (hw : word ≠ []) : prepare word ≠ [] := by
  obtain ⟨c, cs, rfl⟩ := List.exists_cons_of_ne_nil hw
  cases cs <;> exact List.cons_ne_nil _ _

private theorem length_pastOpening?_lt {rest : List Char} (h : pastOpening? word = some rest) :
    rest.length < word.length := by
  cases word with
  | nil => cases h
  | cons a cs =>
    simp only [pastOpening?] at h
    obtain h | ⟨-, h⟩ := Option.or_eq_some_iff.mp h
    · obtain h | ⟨-, h⟩ := Option.or_eq_some_iff.mp h
      · split at h
        · obtain ⟨-, h⟩ := Option.ite_none_right_eq_some.mp h
          cases h
          simp only [List.length_cons]
          omega
        · cases h
      · exact length_lt_of_findSome?_dropInitial? h (by decide)
    · exact Nat.lt_succ_of_lt (length_past?_lt h)

theorem rv_regions_pos (hw : word ≠ []) : 0 < (regions word).rv :=
  startOf_pos hw fun _ => length_pastOpening?_lt

@[grind ←] theorem leaves_orIqu (h2 : 0 < r.r2) : Leaves r n orIqu :=
  .orElse (.inR2 (leaves_delete h2)) (leaves_replace (by decide))

theorem leaves_standard (hv : 0 < r.rv) (h2 : 0 < r.r2) : Leaves r n standard := by
  refine leaves_choose ?_
  simp only [List.forall_mem_cons]
  grind

theorem leaves_adverb : Leaves r n adverb := by
  refine leaves_choose ?_
  simp only [List.forall_mem_cons]
  refine ⟨.inRV (leaves_replace (by decide)), .inRV (leaves_replace (by decide)), ?_, leaves_keep,
    List.forall_mem_nil _⟩
  intro w w' _ ha
  cases w with
  | nil => cases ha
  | cons c rest => exact ne_nil_of_ite (List.cons_ne_nil _ _) ha

theorem leaves_undouble : Leaves r n undouble :=
  (leaves_dropLast Nat.one_lt_two).onlyAfter (by decide)

theorem leaves_dropAccent : Leaves r n dropAccent := by
  intro w w' _ ha
  simp only [dropAccent] at ha
  split at ha
  · exact ne_nil_of_ite (List.append_ne_nil_of_right_ne_nil _ (List.cons_ne_nil _ _)) ha
  · cases ha

/-- Whichever of the rules applies first leaves something; a verb ending is looked for in RV alone. -/
theorem main_ne_nil (hv : 0 < r.rv) (h2 : 0 < r.r2) {w : List Char} (hw : w ≠ []) : main r w ≠ [] := by
  have bare : adverb.apply r w ≠ [] := leaves_adverb.apply hw
  have verbs : Leaves r 0 (verbInI.orElse verb) := .orElse (leaves_confined hv) (leaves_confined hv)
  simp only [main]
  split
  · next w' found =>
    refine Leaves.apply (by grind [plainEnd]) ?_
    obtain found | ⟨-, found⟩ := Option.or_eq_some_iff.mp found
    · exact leaves_standard hv h2 w w' (Nat.zero_le _) found
    · exact verbs _ w' (Nat.zero_le _) found
  · refine inTurn_ne_nil ?_ bare
    grind [pluralS, residual]

theorem stem_ne_nil (hw : word ≠ []) : stem word ≠ [] := by
  have hp := prepare_ne_nil hw
  refine mt respell_eq_nil_iff.mp (mt List.reverse_eq_nil_iff.mp (inTurn_ne_nil ?_ (main_ne_nil ?_ ?_ ?_)))
  · simp [leaves_undouble, leaves_dropAccent]
  · exact rv_regions_pos hp
  · exact Regions.r2_ofSyllables_pos vowel 0 hp
  · exact mt List.reverse_eq_nil_iff.mp hp

end French

/-! ### Italian -/

namespace Italian

theorem prepare_ne_nil (hw : word ≠ []) : prepare word ≠ [] := by
  refine mt markAfterVowel_eq_nil_iff.mp ?_
  obtain ⟨c, cs, rfl⟩ := List.exists_cons_of_ne_nil hw
  rw [respell, List.map_cons, markAfterQ.eq_def]
  split
  · exact List.cons_ne_nil _ _
  · exact List.cons_ne_nil _ _
  · next h => cases h

/-- The verb form stays, with an `e` on it if it is an infinitive. -/
theorem leaves_host (hv : 0 < r.rv) : Leaves r n pronoun.host := by
  intro w w' _ ha
  obtain ⟨⟨a, rest⟩, hf, ha⟩ := Option.bind_eq_some_iff.mp ha
  obtain ⟨_, hm, hw, hl⟩ := Table.longest?_eq_some hf
  obtain ⟨g, hg, rfl, -⟩ := Table.mem_ofGroups_iff.mp hm
  have all : ∀ g ∈ [(["ando", "endo"], delete), (["ar", "er", "ir"], replace "e")], Leaves r 1 g.2 := by
    grind
  refine all g hg w w' ?_ ha
  rw [hw, List.length_append]
  omega

theorem leaves_pronoun (hv : 0 < r.rv) : Leaves r n pronoun := by
  grind [pronoun, leaves_host]

theorem leaves_standard (hv : 0 < r.rv) (h1 : 0 < r.r1) (h2 : 0 < r.r2) : Leaves r n standard := by
  refine leaves_choose ?_
  simp only [List.forall_mem_cons]
  grind

theorem leaves_finalVowel (hv : 0 < r.rv) : Leaves r n finalVowel := by
  have off : Leaves r 0 (inRV (delete.thenTry (suffix "i" (inRV delete)))) :=
    .inRV (.thenTry (leaves_delete hv) (.suffix (.inRV (leaves_delete hv))))
  intro w w' _ ha
  cases w with
  | nil => cases ha
  | cons c rest =>
    obtain ⟨-, ha⟩ := Option.ite_none_right_eq_some.mp ha
    exact off rest w' (Nat.zero_le _) ha

theorem leaves_finalH : Leaves r n finalH := by
  intro w w' _ ha
  simp only [finalH] at ha
  split at ha
  · exact ne_nil_of_ite (List.cons_ne_nil _ _) ha
  · cases ha

theorem stem_ne_nil (hw : word ≠ []) : stem word ≠ [] := by
  have hp := prepare_ne_nil hw
  have hv := Regions.rv_ofOpening_pos vowel hp
  have h1 := Regions.r1_ofOpening_pos vowel hp
  have h2 := Regions.r2_ofOpening_pos vowel hp
  refine mt respell_eq_nil_iff.mp (reduceBy_ne_nil ?_ hp)
  grind [verb, leaves_pronoun, leaves_standard, leaves_finalVowel, leaves_finalH]

end Italian

/-! ### Portuguese -/

namespace Portuguese

theorem prepare_ne_nil (hw : word ≠ []) : prepare word ≠ [] := by
  rw [prepare, Ne, List.flatMap_eq_nil_iff]
  obtain ⟨c, cs, rfl⟩ := List.exists_cons_of_ne_nil hw
  intro h
  have hc := h c List.mem_cons_self
  split at hc
  · cases hc
  · split at hc <;> cases hc

theorem finish_ne_nil (hw : word ≠ []) : finish word ≠ [] := by
  rw [finish.eq_def]
  split
  · exact List.cons_ne_nil _ _
  · exact List.cons_ne_nil _ _
  · exact List.cons_ne_nil _ _
  · exact hw

theorem leaves_standard (h1 : 0 < r.r1) (h2 : 0 < r.r2) : Leaves r n standard := by
  refine leaves_choose ?_
  simp only [List.forall_mem_cons]
  grind

theorem leaves_softC (hv : 0 < r.rv) : Leaves r n softC :=
  .suffix (.after (.inRV (leaves_delete hv)))

theorem leaves_residual (hv : 0 < r.rv) : Leaves r n residual := by
  grind [residual]

theorem leaves_residualForm (hv : 0 < r.rv) : Leaves r n residualForm := by
  grind [residualForm, leaves_softC]

theorem stem_ne_nil (hw : word ≠ []) : stem word ≠ [] := by
  have hp := prepare_ne_nil hw
  have hv := Regions.rv_ofOpening_pos vowel hp
  have h1 := Regions.r1_ofOpening_pos vowel hp
  have h2 := Regions.r2_ofOpening_pos vowel hp
  refine finish_ne_nil (reduceBy_ne_nil ?_ hp)
  grind [verb, leaves_softC, leaves_standard, leaves_residual, leaves_residualForm]

end Portuguese

/-! ### Romanian -/

namespace Romanian

theorem leaves_article (h1 : 0 < r.r1) : Leaves r n article := by
  refine leaves_choose ?_
  simp only [List.forall_mem_cons]
  grind

theorem leaves_combined : Leaves r n combined := by
  refine leaves_choose ?_
  simp only [List.forall_mem_cons]
  grind

/-- However often suffixes are combined, each of them is written again in a shorter form. -/
theorem combinedAll_ne_nil {w : List Char} (hw : w ≠ []) : combinedAll r w ≠ [] := by
  induction w using combinedAll.induct r with
  | case1 w h => rwa [combinedAll, h]
  | case2 w w' h shorter ih =>
    rw [combinedAll, h]
    simp only [if_pos shorter]
    exact ih (leaves_combined w w' (Nat.zero_le _) h)
  | case3 w w' h shorter =>
    rw [combinedAll, h]
    simp only [if_neg shorter]
    exact leaves_combined w w' (Nat.zero_le _) h

theorem leaves_standard (h2 : 0 < r.r2) : Leaves r n standard := by
  grind [standard]

theorem leaves_finalVowel (hv : 0 < r.rv) : Leaves r n finalVowel := by
  grind [finalVowel]

theorem reduce_ne_nil (hv : 0 < r.rv) (h1 : 0 < r.r1) (h2 : 0 < r.r2) {w : List Char} (hw : w ≠ []) :
    reduce r w ≠ [] := by
  have bare := (leaves_article h1).apply hw
  have all := combinedAll_ne_nil (r := r) bare
  refine (leaves_finalVowel hv).apply ?_
  split
  · next w' found => exact leaves_standard h2 _ w' (Nat.zero_le _) found
  · split
    · exact Leaves.apply (leaves_confined hv) bare
    · exact all

theorem stem_ne_nil (hw : word ≠ []) : stem word ≠ [] := by
  have hp : prepare word ≠ [] := mt markAfterVowel_eq_nil_iff.mp hw
  refine mt respell_eq_nil_iff.mp (mt List.reverse_eq_nil_iff.mp ?_)
  exact reduce_ne_nil (Regions.rv_ofOpening_pos vowel hp) (Regions.r1_ofOpening_pos vowel hp)
    (Regions.r2_ofOpening_pos vowel hp) (mt List.reverse_eq_nil_iff.mp hp)

end Romanian

/-! ### Spanish -/

namespace Spanish

/-- The verb form is in RV, so that it is not empty, and nothing of it goes but an accent. -/
theorem leaves_host (hv : 0 < r.rv) : Leaves r n pronoun.host := by
  intro w w' _ ha
  obtain ⟨⟨a, rest⟩, hf, ha⟩ := Option.bind_eq_some_iff.mp ha
  obtain ⟨_, hm, hw, -⟩ := Table.longest?_eq_some hf
  obtain ⟨g, hg, rfl, -⟩ := Table.mem_ofGroups_iff.mp hm
  obtain ⟨inside, ha⟩ := Option.ite_none_right_eq_some.mp ha
  have same : Leaves r 0 fun _ _ => some w := by
    intro _ w' _ ha
    cases ha
    rw [hw, ← List.length_pos_iff, List.length_append]
    dsimp only at inside
    omega
  have all : Leaves r 0 g.2 := by
    simp only [List.mem_cons, List.not_mem_nil, or_false] at hg
    obtain rfl | rfl | rfl | rfl | rfl | rfl | rfl := hg
    · exact leaves_replace (s := "iendo") (by decide)
    · exact leaves_replace (s := "ando") (by decide)
    · exact leaves_replace (s := "ar") (by decide)
    · exact leaves_replace (s := "er") (by decide)
    · exact leaves_replace (s := "ir") (by decide)
    · exact same
    · exact .after (same.mono (Nat.zero_le 1))
  exact all rest w' (Nat.zero_le _) ha

theorem leaves_pronoun (hv : 0 < r.rv) : Leaves r n pronoun := by
  grind [pronoun, leaves_host]

theorem leaves_standard (h1 : 0 < r.r1) (h2 : 0 < r.r2) : Leaves r n standard := by
  refine leaves_choose ?_
  simp only [List.forall_mem_cons]
  grind

theorem leaves_verb (hv : 0 < r.rv) : Leaves r n verb := by
  grind [verb]

theorem leaves_residual (hv : 0 < r.rv) : Leaves r n residual := by
  grind [residual]

theorem stem_ne_nil (hw : word ≠ []) : stem word ≠ [] := by
  have hv := Regions.rv_ofOpening_pos vowel hw
  have h1 := Regions.r1_ofOpening_pos vowel hw
  have h2 := Regions.r2_ofOpening_pos vowel hw
  refine mt respell_eq_nil_iff.mp (reduceBy_ne_nil ?_ hw)
  grind [verbInY, leaves_pronoun, leaves_standard, leaves_verb, leaves_residual]

end Spanish

end TextAnalysis.Stem
