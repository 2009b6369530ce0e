import TextAnalysis.Proofs.Stem.Rule
import TextAnalysis.Stem.Finnish
import TextAnalysis.Stem.Hungarian
import TextAnalysis.Stem.Russian

/-!
# What Finnish, Hungarian and Russian stems leave of a word

None of these languages takes a word away whole. In Russian no rule even sees what stands before RV.
-/

namespace TextAnalysis.Stem

open Rule

variable {r : Regions} {n : Nat} {word : List Char}

/-! ### Finnish -/

namespace Finnish

/-- With `n` goes a letter more only after two letters. -/
theorem leaves_finalN (h : 0 < n) : Leaves r n finalN := by
  intro w w' hw ha
  rw [finalN] at ha
  split at ha
  · next found =>
    cases ha
    have long : 2 ≤ w.length := le_length_of_any_strip? found (by decide)
    apply List.length_pos_iff.mp
    rw [List.length_tail]
    omega
  · cases ha
    exact List.length_pos_iff.mp (Nat.lt_of_lt_of_le h hw)

theorem leaves_plainCase (h1 : 0 < r.r1) : Leaves r n plainCase := by
  have afterSame : ∀ s, s ≠ "" → Leaves r r.r1 (onlyAfter [s] delete) :=
    fun s hs => leaves_onlyAfter_delete (by simpa using hs)
  refine leaves_chooseWithin ?_
  simp only [List.forall_mem_cons]
  refine ⟨afterSame _ (by decide), afterSame _ (by decide), afterSame _ (by decide),
    afterSame _ (by decide), afterSame _ (by decide), afterSame _ (by decide), leaves_finalN h1, ?_,
    afterSame _ (by decide), leaves_delete h1, List.forall_mem_nil _⟩
  intro w w' _ ha
  dsimp only at ha
  split at ha
  · exact ne_nil_of_ite (List.cons_ne_nil _ _) ha
  · cases ha

theorem leaves_caseEnding (h1 : 0 < r.r1) : Leaves r n caseEnding :=
  .orElse (.orElse (.orElse (.orElse (leaves_confined h1) (leaves_confined h1)) (leaves_confined h1))
    (leaves_confined h1)) (leaves_plainCase h1)

theorem leaves_particle (h2 : 0 < r.r2) : Leaves r n particle := by
  grind [particle]

theorem leaves_possessive (h1 : 0 < r.r1) : Leaves r n possessive := by
  refine leaves_chooseWithin ?_
  simp only [List.forall_mem_cons]
  exact ⟨.unlessAfter (leaves_delete h1),
    .thenTry (leaves_delete h1) (.suffix (leaves_replace (by decide))), leaves_delete h1,
    leaves_onlyAfter_delete (by decide), leaves_onlyAfter_delete (by decide),
    leaves_onlyAfter_delete (by decide), List.forall_mem_nil _⟩

theorem leaves_comparison (h2 : 0 < r.r2) : Leaves r n comparison := by
  grind [comparison]

theorem leaves_pluralI (h1 : 0 < r.r1) : Leaves r n pluralI := by
  grind [pluralI]

theorem leaves_pluralT (h1 : 0 < r.r1) (h2 : 0 < r.r2) : Leaves r n pluralT := by
  grind [pluralT]

theorem leaves_undouble : Leaves r n undouble := by
  intro w w' _ ha
  simp only [undouble] at ha
  split at ha
  · exact ne_nil_of_ite (List.append_ne_nil_of_right_ne_nil _ (List.cons_ne_nil _ _)) ha
  · cases ha

theorem stem_ne_nil (hw : word ≠ []) : stem word ≠ [] := by
  have h1 := Regions.r1_ofSyllables_pos vowel 0 hw
  have h2 := Regions.r2_ofSyllables_pos vowel 0 hw
  have start := mt List.reverse_eq_nil_iff.mp hw
  refine mt List.reverse_eq_nil_iff.mp (inTurn_ne_nil ?_ (inTurn_ne_nil ?_ start))
  · simp only [List.forall_mem_cons]
    refine ⟨leaves_caseEnding h1, leaves_comparison h2, ?_, leaves_confined h1, leaves_undouble,
      List.forall_mem_nil _⟩
    split
    · exact leaves_pluralI h1
    · exact leaves_pluralT h1 h2
  · simp [leaves_particle h2, leaves_possessive h1]

end Finnish

/-! ### Hungarian -/

namespace Hungarian

private theorem length_pastConsonant?_lt {cs rest : List Char} (h : pastConsonant? cs = some rest) :
    rest.length < cs.length := by
  obtain h | ⟨-, h⟩ := Option.or_eq_some_iff.mp h
  · exact length_lt_of_findSome?_dropInitial? h (by decide)
  · cases cs with
    | nil => cases h
    | cons c cs =>
      cases h
      exact Nat.lt_succ_self _

private theorem length_pastOpening?_lt {rest : List Char} (h : pastOpening? word = some rest) :
    rest.length < word.length := by
  cases word with
  | nil => cases h
  | cons c cs =>
    rw [pastOpening?] at h
    rw [List.length_cons]
    split at h
    · have := length_pastConsonant?_lt h
      have := (List.dropWhile_sublist vowel (l := cs)).length_le
      omega
    · exact Nat.lt_succ_of_lt (length_past?_lt h)

/-- R1 begins after the first letter at least. -/
theorem r1_regions_pos (hw : word ≠ []) : 0 < (regions word).r1 :=
  startOf_pos hw fun _ => length_pastOpening?_lt

/-- Of a doubled consonant one letter stays. -/
@[grind ←] theorem leaves_afterDoubled : Leaves r n afterDoubled := by
  refine .inR1 (.onlyAfter (m := 0) ?_ fun _ _ => Nat.zero_le _)
  intro w w' _ ha
  dsimp only at ha
  split at ha
  · cases ha
    exact List.cons_ne_nil _ _
  · cases ha

theorem leaves_caseEnding (h : 0 < r.r1) : Leaves r n caseEnding := by
  have short : Leaves r 1 shortenVowel := by grind [shortenVowel]
  grind [caseEnding]

theorem leaves_ownerOfMany (h : 0 < r.r1) : Leaves r n ownerOfMany := by
  grind [ownerOfMany]

theorem stem_ne_nil (hw : word ≠ []) : stem word ≠ [] := by
  have h := r1_regions_pos hw
  refine reduceBy_ne_nil ?_ hw
  simp only [List.forall_mem_cons]
  refine ⟨?_, leaves_caseEnding h, ?_, ?_, ?_, ?_, ?_, leaves_ownerOfMany h, ?_, List.forall_mem_nil _⟩
  · grind [instrumental]
  · grind [longVowelCase]
  · grind [sociative]
  · grind [factive]
  · grind [owned]
  · grind [ownerOfOne]
  · grind [plural]

end Hungarian

/-! ### Russian -/

namespace Russian

theorem stem_ne_nil (hw : word ≠ []) : stem word ≠ [] := by
  have hv : 0 < (regions word).rv := startOf_pos hw fun _ => length_past?_lt
  refine reduceBy_ne_nil ?_ hw
  rw [List.forall_mem_singleton]
  exact leaves_confined hv

end Russian

end TextAnalysis.Stem
