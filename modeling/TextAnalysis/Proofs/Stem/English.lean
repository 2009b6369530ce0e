import TextAnalysis.Proofs.Stem.Rule
import TextAnalysis.Stem.English

/-!
# What English stems leave of a word

An opening apostrophe is dropped and a possessive ending goes from anywhere, so that two words are taken away
whole. Every rule after these leaves something.
-/

namespace TextAnalysis.Stem.English

open Rule

variable {r : Regions} {n : Nat} {word : List Char}

/-! ### Marking and regions -/

theorem length_markY (afterVowel : Bool) : (markY afterVowel word).length = word.length := by
  induction word generalizing afterVowel with
  | nil => rfl
  | cons c cs ih =>
    rw [markY]
    split
    · rw [List.length_cons, ih, List.length_cons]
    · rw [List.length_cons, ih, List.length_cons]

theorem length_prepare : (prepare word).length = word.length := by
  rw [prepare.eq_def]
  split
  · rw [List.length_cons, length_markY, List.length_cons]
  · exact length_markY false

theorem markY_eq_self {afterVowel : Bool} (h : 'Y' ∉ markY afterVowel word) :
    markY afterVowel word = word := by
  induction word generalizing afterVowel with
  | nil => rfl
  | cons c cs ih =>
    rw [markY] at h ⊢
    split at h
    · exact absurd List.mem_cons_self h
    · next hc => rw [if_neg hc, ih fun hm => h (List.mem_cons_of_mem _ hm)]

/-- A word is unchanged if nothing in it is marked. -/
theorem prepare_eq_self (h : 'Y' ∉ prepare word) : prepare word = word := by
  rw [prepare.eq_def] at h ⊢
  split at h
  · exact absurd List.mem_cons_self h
  · exact markY_eq_self h

private theorem length_pastR1_lt {rest : List Char}
    (h : (pastFixedStart? word).or (pastSyllable? vowel word) = some rest) : rest.length < word.length := by
  obtain h | ⟨-, h⟩ := Option.or_eq_some_iff.mp h
  · exact length_lt_of_findSome?_dropInitial? h (by decide)
  · exact length_pastSyllable?_lt h

theorem r1_regions_pos (hw : word ≠ []) : 0 < (regions word).r1 :=
  startOf_pos hw fun _ => length_pastR1_lt

theorem r2_regions_pos (hw : word ≠ []) : 0 < (regions word).r2 := by
  refine startOf_pos hw fun rest2 h => ?_
  obtain ⟨rest1, h1, h2⟩ := Option.bind_eq_some_iff.mp h
  exact Nat.lt_trans (length_pastSyllable?_lt h2) (length_pastR1_lt h1)

/-! ### Rules -/

@[grind ←] theorem leaves_afterSomeVowel {a : Rule} (h : Leaves r 1 a) :
    Leaves r n (afterSomeVowel a) := by
  intro w w' _ ha
  obtain ⟨hv, ha⟩ := Option.ite_none_right_eq_some.mp ha
  obtain ⟨c, hc, -⟩ := List.any_eq_true.mp hv
  exact h w w' (List.length_pos_of_mem hc) ha

/-- What a plural ending leaves has a vowel before its last letter, or is written again. -/
theorem leaves_plural : Leaves r n plural := by
  have ied : Leaves r 0 fun r w => (if 2 ≤ w.length then replace "i" else replace "ie") r w := by
    intro w w' hw ha
    dsimp only at ha
    by_cases long : 2 ≤ w.length
    · rw [if_pos long] at ha
      exact leaves_replace (by decide) w w' hw ha
    · rw [if_neg long] at ha
      exact leaves_replace (by decide) w w' hw ha
  have s : Leaves r 0 fun r w => afterSomeVowel (fun _ _ => some w) r w.tail := by
    intro w w' _ ha
    obtain ⟨hv, ha⟩ := Option.ite_none_right_eq_some.mp ha
    cases ha
    rintro rfl
    cases hv
  refine leaves_choose ?_
  simp only [List.forall_mem_cons]
  exact ⟨leaves_replace (by decide), ied, s, leaves_keep, List.forall_mem_nil _⟩

/-- What is repaired keeps a letter, for a double letter is written once and an `e` is put on. -/
theorem leaves_repair : Leaves r n repair := by
  have lengthened : ∀ w, append "e" w ≠ [] := fun _ => List.cons_ne_nil _ _
  intro w w' hw ha
  simp only [repair] at ha
  split at ha
  · cases ha
    exact lengthened w
  · split at ha
    · split at ha
      · cases ha
        exact List.cons_ne_nil _ _
      · exact ne_nil_of_ite (lengthened _) ha
    · exact ne_nil_of_ite (lengthened _) ha

theorem leaves_participle : Leaves r n participle := by
  grind [participle, leaves_repair]

theorem leaves_finalY : Leaves r n finalY := by
  intro w w' _ ha
  simp only [finalY] at ha
  split at ha
  · exact ne_nil_of_ite (List.cons_ne_nil _ _) ha
  · cases ha

theorem leaves_doubleSuffix : Leaves r n doubleSuffix := by
  refine leaves_choose ?_
  simp only [List.forall_mem_cons]
  grind

theorem leaves_furtherSuffix (h1 : 0 < r.r1) (h2 : 0 < r.r2) : Leaves r n furtherSuffix := by
  refine leaves_choose ?_
  simp only [List.forall_mem_cons]
  grind

theorem leaves_longSuffix (h2 : 0 < r.r2) : Leaves r n longSuffix := by
  grind [longSuffix]

theorem leaves_finalLetter (h1 : 0 < r.r1) (h2 : 0 < r.r2) : Leaves r n finalLetter := by
  intro w w' _ ha
  simp only [finalLetter] at ha
  split at ha
  · obtain ⟨hr, ha⟩ := Option.ite_none_right_eq_some.mp ha
    cases ha
    apply List.length_pos_iff.mp
    omega
  · exact ne_nil_of_ite (List.cons_ne_nil _ _) ha
  · cases ha

/-- The possessive endings. -/
def possessives : List String := ["\x27", "\x27s", "\x27s\x27"]

/-- The rule takes a word away only if the word is one of them. -/
theorem of_possessive_eq_nil {w : List Char} (hw : w ≠ []) (h : possessive.apply r w = []) :
    ∃ s ∈ possessives, w = s.toList.reverse := by
  rw [Rule.apply] at h
  cases hp : possessive r w with
  | none =>
    rw [hp] at h
    exact absurd h hw
  | some w' =>
    rw [hp] at h
    cases h
    obtain ⟨⟨a, rest⟩, hf, ha⟩ := Option.bind_eq_some_iff.mp hp
    obtain ⟨_, hm, rfl, -⟩ := Table.longest?_eq_some hf
    obtain ⟨g, hg, rfl, s, hs, rfl⟩ := Table.mem_ofGroups_iff.mp hm
    rw [List.mem_singleton] at hg
    subst hg
    cases ha
    exact ⟨s, hs, List.append_nil _⟩

/-- After the possessive ending no rule takes away what is left. -/
theorem reduce_ne_nil (h1 : 0 < r.r1) (h2 : 0 < r.r2) {w : List Char}
    (h : possessive.apply r w ≠ []) : reduce r w ≠ [] := by
  have hp := (leaves_plural (r := r)).apply h
  rw [reduce]
  split
  · exact hp
  · refine inTurn_ne_nil ?_ hp
    simp [leaves_participle, leaves_finalY, leaves_doubleSuffix, leaves_furtherSuffix h1 h2,
      leaves_longSuffix h2, leaves_finalLetter h1 h2]

/-! ### Words of which nothing is left -/

/-- The two words of which English stemming leaves nothing: an apostrophe before a possessive ending. -/
def bareEndings : List (List Char) := [['\x27', '\x27', 's'], ['\x27', '\x27', 's', '\x27']]

theorem irregular_ne_nil {s : String} (h : irregular.lookup (String.ofList word) = some s) :
    s.toList ≠ [] := by
  have all : ∀ e ∈ irregular, e.2.toList ≠ [] := by decide
  obtain ⟨l₁, l₂, hl, -⟩ := List.lookup_eq_some_iff.mp h
  exact all (_, s) (hl ▸ List.mem_append_right _ List.mem_cons_self)

/-- If the rules leave nothing of a word, it is a possessive ending. -/
theorem of_reduce_eq_nil (hw : word ≠ [])
    (h : reduce (regions (prepare word)) (prepare word).reverse = []) :
    ∃ s ∈ possessives, word = s.toList := by
  have hp : prepare word ≠ [] := by rwa [← List.length_pos_iff, length_prepare, List.length_pos_iff]
  have off : possessive.apply (regions (prepare word)) (prepare word).reverse = [] := by
    by_cases hn : possessive.apply (regions (prepare word)) (prepare word).reverse = []
    · exact hn
    · exact absurd h (reduce_ne_nil (r1_regions_pos hp) (r2_regions_pos hp) hn)
  obtain ⟨s, hs, heq⟩ := of_possessive_eq_nil (mt List.reverse_eq_nil_iff.mp hp) off
  have unmarked : ∀ s ∈ possessives, 'Y' ∉ s.toList := by decide
  have heq := List.reverse_inj.mp heq
  refine ⟨s, hs, ?_⟩
  rw [← heq]
  exact (prepare_eq_self (heq ▸ unmarked s hs)).symm

/-- A word of three letters or more that is a possessive ending but for an opening apostrophe. -/
theorem mem_bareEndings_of_dropApostrophe {s : String} (long : ¬ word.length < 3) (hs : s ∈ possessives)
    (h : dropApostrophe word = s.toList) : word ∈ bareEndings := by
  rw [dropApostrophe.eq_def] at h
  simp only [possessives, List.mem_cons, List.not_mem_nil, or_false] at hs
  split at h
  · subst h
    obtain rfl | rfl | rfl := hs
    · exact absurd (by decide) long
    · decide
    · decide
  · next other =>
    subst h
    obtain rfl | rfl | rfl := hs
    · exact absurd rfl (other _)
    · exact absurd rfl (other _)
    · exact absurd rfl (other _)

theorem mem_bareEndings_of_stem_eq_nil (hw : word ≠ []) (h : stem word = []) : word ∈ bareEndings := by
  rw [stem] at h
  split at h
  · next s hs => exact absurd h (irregular_ne_nil hs)
  · split at h
    · exact absurd h hw
    · next long =>
      have bare : dropApostrophe word ≠ [] := by
        rw [dropApostrophe.eq_def]
        split
        · next cs =>
          rintro rfl
          exact long (by decide)
        · exact hw
      have reduced : reduce (regions (prepare (dropApostrophe word)))
          (prepare (dropApostrophe word)).reverse = [] := by
        dsimp only at h
        split at h
        · exact List.reverse_eq_nil_iff.mp h
        · exact List.reverse_eq_nil_iff.mp (List.map_eq_nil_iff.mp h)
      obtain ⟨s, hs, heq⟩ := of_reduce_eq_nil bare reduced
      exact mem_bareEndings_of_dropApostrophe long hs heq

/-- English stemming leaves nothing of these two words and of no other. -/
theorem stem_eq_nil_iff (hw : word ≠ []) : stem word = [] ↔ word ∈ bareEndings := by
  constructor
  · exact mem_bareEndings_of_stem_eq_nil hw
  · have all : ∀ w ∈ bareEndings, stem w = [] := by decide +kernel
    exact all word

end TextAnalysis.Stem.English
