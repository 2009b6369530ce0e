import Mathlib.Data.List.Basic
import TextAnalysis.Stem.Rule

/-!
# What a suffix rule leaves of a word

A rule leaves something if it never takes a word away whole. Whether it does depends on how many letters it
is given: at a suffix that lies in a region there is a letter before it, unless the region is the whole word.
Every way in which rules are combined has one law here, so that for a language no more is to be shown than
where its regions begin.
-/

namespace TextAnalysis.Stem

/-! ### Suffixes -/

theorem dropInitial?_eq_some_iff {s w rest : List Char} :
    dropInitial? s w = some rest ↔ w = s ++ rest := by
  induction s generalizing w with
  | nil => simp [dropInitial?]
  | cons a s ih =>
    cases w with
    | nil => simp [dropInitial?]
    | cons c w =>
      rw [dropInitial?]
      split
      · next h => simp [ih, h]
      · next h => simp [Ne.symm h]

/-- A word ends in a suffix exactly if it is the suffix with letters before it. -/
theorem strip?_eq_some_iff {s : String} {w rest : List Char} :
    strip? s w = some rest ↔ w = s.toList.reverse ++ rest :=
  dropInitial?_eq_some_iff

/-- A word that ends in one of some texts is at least as long as the shortest of them. -/
theorem le_length_of_any_strip? {texts : List String} {w : List Char} {k : Nat}
    (h : (texts.any fun s => (strip? s w).isSome) = true) (long : ∀ s ∈ texts, k ≤ s.length) :
    k ≤ w.length := by
  obtain ⟨s, hs, hw⟩ := List.any_eq_true.mp h
  obtain ⟨rest, hr⟩ := Option.isSome_iff_exists.mp hw
  have := long s hs
  rw [strip?_eq_some_iff.mp hr, List.length_append, List.length_reverse, String.length_toList]
  omega

/-- What a table finds is one of its suffixes, with enough letters before it. -/
theorem Table.longest?_eq_some {α : Type} {least : Nat} {t : Table α} {w rest : List Char} {a : α}
    (h : Table.longest? least t w = some (a, rest)) :
    ∃ s, (s, a) ∈ t ∧ w = s ++ rest ∧ least ≤ rest.length := by
  induction t generalizing a rest with
  | nil => cases h
  | cons entry t ih =>
    obtain ⟨s, b⟩ := entry
    have later : ∀ {c rest'}, Table.longest? least t w = some (c, rest') →
        ∃ s', (s', c) ∈ (s, b) :: t ∧ w = s' ++ rest' ∧ least ≤ rest'.length := by
      intro c rest' hc
      obtain ⟨s', hm, hs⟩ := ih hc
      exact ⟨s', List.mem_cons_of_mem _ hm, hs⟩
    rw [longest?] at h
    split at h
    · exact later h
    · next before hb =>
      have here : least ≤ before.length →
          ∃ s', (s', b) ∈ (s, b) :: t ∧ w = s' ++ before ∧ least ≤ before.length :=
        fun hl => ⟨s, List.mem_cons_self, dropInitial?_eq_some_iff.mp hb, hl⟩
      split at h
      · exact later h
      · next hl =>
        rw [Nat.not_lt] at hl
        split at h
        · cases h
          exact here hl
        · next c rest' hc =>
          split at h
          · cases h
            exact later hc
          · cases h
            exact here hl

/-- A table made of groups holds the suffixes of each group, with its value. -/
theorem Table.mem_ofGroups_iff {α : Type} {groups : List (List String × α)} {s : List Char} {a : α} :
    (s, a) ∈ Table.ofGroups groups ↔ ∃ g ∈ groups, g.2 = a ∧ ∃ t ∈ g.1, t.toList.reverse = s := by
  simp only [Table.ofGroups, List.mem_flatMap, List.mem_map, Prod.mk.injEq]
  constructor
  · rintro ⟨g, hg, t, ht, hs, ha⟩
    exact ⟨g, hg, ha, t, ht, hs⟩
  · rintro ⟨g, hg, ha, t, ht, hs⟩
    exact ⟨g, hg, t, ht, hs, ha⟩

/-- Nothing is left where nothing is written after nothing. -/
theorem append_eq_nil_iff {s : String} {w : List Char} : append s w = [] ↔ s = "" ∧ w = [] := by
  simp [append]

/-- What a rule writes under a condition is something if it is something without. -/
theorem ne_nil_of_ite {p : Prop} [Decidable p] {v w : List Char} (hv : v ≠ [])
    (h : (if p then some v else none) = some w) : w ≠ [] := by
  obtain ⟨-, h⟩ := Option.ite_none_right_eq_some.mp h
  cases h
  exact hv

/-! ### Rules -/

namespace Rule

/-- Given a word of at least `given` letters, the rule leaves at least one where it applies. -/
def Leaves (r : Regions) (given : Nat) (a : Rule) : Prop :=
  ∀ w w', given ≤ w.length → a r w = some w' → w' ≠ []

variable {r : Regions} {m n : Nat} {a b : Rule}

theorem Leaves.mono (h : Leaves r m a) (hmn : m ≤ n) : Leaves r n a :=
  fun w w' hw => h w w' (Nat.le_trans hmn hw)

/-- What is taken off leaves something if there is a letter before it. -/
@[grind ←] theorem leaves_delete (h : 0 < n) : Leaves r n delete := by
  intro w w' hw ha
  cases ha
  exact List.length_pos_iff.mp (Nat.lt_of_lt_of_le h hw)

/-- A suffix that goes under a condition leaves what one that goes without does. -/
theorem leaves_where {p : List Char → Prop} [DecidablePred p] (h : 0 < n) :
    Leaves r n fun _ w => if p w then some w else none :=
  fun _ _ hw ha => ne_nil_of_ite (List.length_pos_iff.mp (Nat.lt_of_lt_of_le h hw)) ha

@[grind ←] theorem leaves_replace {s : String} (h : s ≠ "") : Leaves r n (replace s) := by
  intro w w' _ ha
  cases ha
  exact fun hn => h (append_eq_nil_iff.mp hn).1

@[grind ←] theorem leaves_keep : Leaves r n keep := fun _ _ _ ha => nomatch ha

/-- In a region a rule is given the letters before the region. -/
theorem Leaves.within {start : Regions → Nat} (h : Leaves r (start r) a) :
    Leaves r n fun r w => if start r ≤ w.length then a r w else none := by
  intro w w' _ ha
  obtain ⟨hw, ha⟩ := Option.ite_none_right_eq_some.mp ha
  exact h w w' hw ha

@[grind ←] theorem Leaves.inRV (h : Leaves r r.rv a) : Leaves r n (inRV a) := within h

@[grind ←] theorem Leaves.inR1 (h : Leaves r r.r1 a) : Leaves r n (inR1 a) := within h

@[grind ←] theorem Leaves.inR2 (h : Leaves r r.r2 a) : Leaves r n (inR2 a) := within h

/-- After a letter a rule is given that letter at least. -/
@[grind ←] theorem Leaves.after {p : Char → Bool} (h : Leaves r 1 a) : Leaves r n (after p a) := by
  intro w w' _ ha
  cases w with
  | nil => cases ha
  | cons c w =>
    obtain ⟨-, ha⟩ := Option.ite_none_right_eq_some.mp ha
    exact h (c :: w) w' (Nat.le_add_left 1 _) ha

@[grind ←] theorem Leaves.unlessAfter {texts : List String} (h : Leaves r n a) :
    Leaves r n (unlessAfter texts a) := by
  intro w w' hw ha
  obtain ⟨-, ha⟩ := Option.ite_none_left_eq_some.mp ha
  exact h w w' hw ha

/-- After one of some texts a rule is given as many letters as the shortest of them has. -/
theorem Leaves.onlyAfter {texts : List String} (h : Leaves r m a) (long : ∀ s ∈ texts, m ≤ s.length) :
    Leaves r n (onlyAfter texts a) := by
  intro w w' _ ha
  obtain ⟨hw, ha⟩ := Option.ite_none_right_eq_some.mp ha
  exact h w w' (le_length_of_any_strip? hw long) ha

@[grind ←] theorem leaves_onlyAfter_delete {texts : List String} (long : ∀ s ∈ texts, s ≠ "") :
    Leaves r n (onlyAfter texts delete) := by
  refine (leaves_delete Nat.one_pos).onlyAfter fun s hs => ?_
  rw [Nat.one_le_iff_ne_zero, ← String.length_toList]
  exact fun h => long s hs (by simpa using h)

@[grind ←] theorem Leaves.suffix {s : String} (h : Leaves r 0 a) : Leaves r n (suffix s a) := by
  intro w w' _ ha
  obtain ⟨rest, -, ha⟩ := Option.bind_eq_some_iff.mp ha
  exact h rest w' (Nat.zero_le _) ha

/-- A rule of a table is given what the table leaves before its suffix. -/
theorem Leaves.longest {groups : List (List String × Rule)} {w w' : List Char}
    (h : ∀ g ∈ groups, Leaves r m g.2)
    (ha : (((Table.ofGroups groups).longest? m w).bind fun found => found.1 r found.2) = some w') :
    w' ≠ [] := by
  obtain ⟨⟨a, rest⟩, hf, ha⟩ := Option.bind_eq_some_iff.mp ha
  obtain ⟨s, hs, -, hl⟩ := Table.longest?_eq_some hf
  obtain ⟨g, hg, rfl, -⟩ := Table.mem_ofGroups_iff.mp hs
  exact h g hg rest w' hl ha

/-- The longest suffix can be the whole word, so that each rule of the table must leave something. -/
@[grind ←] theorem leaves_choose {groups : List (List String × Rule)} (h : ∀ g ∈ groups, Leaves r 0 g.2) :
    Leaves r n (choose (Table.ofGroups groups)) :=
  fun _ _ _ ha => Leaves.longest h ha

/-- Before a suffix that is looked for in a region stand the letters before the region. -/
@[grind ←] theorem leaves_chooseWithin {start : Regions → Nat} {groups : List (List String × Rule)}
    (h : ∀ g ∈ groups, Leaves r (start r) g.2) :
    Leaves r n (chooseWithin start (Table.ofGroups groups)) :=
  fun _ _ _ ha => Leaves.longest h ha

@[grind ←] theorem Leaves.orElse (ha : Leaves r n a) (hb : Leaves r n b) : Leaves r n (a.orElse b) := by
  intro w w' hw h
  obtain h | ⟨-, h⟩ := Option.or_eq_some_iff.mp h
  · exact ha w w' hw h
  · exact hb w w' hw h

/-- Where a rule may not apply, a word of which it leaves something stays a word. -/
theorem Leaves.apply (h : Leaves r 1 a) {w : List Char} (hw : w ≠ []) : a.apply r w ≠ [] := by
  rw [Rule.apply]
  cases ha : a r w with
  | none => exact hw
  | some w' => exact h w w' (List.length_pos_iff.mpr hw) ha

@[grind ←] theorem Leaves.thenTry (ha : Leaves r n a) (hb : Leaves r 1 b) : Leaves r n (a.thenTry b) := by
  intro w w' hw h
  obtain ⟨w₁, h₁, rfl⟩ := Option.map_eq_some_iff.mp h
  exact hb.apply (ha w w₁ hw h₁)

@[grind ←] theorem leaves_dropLast (h : 1 < n) : Leaves r n dropLast := by
  intro w w' hw ha
  cases w with
  | nil => cases ha
  | cons c w =>
    cases ha
    rw [List.length_cons] at hw
    exact List.length_pos_iff.mp (by omega)

/-- A rule that sees only a region leaves what is before the region. -/
@[grind ←] theorem leaves_confined {start : Regions → Nat} (h : 0 < start r) :
    Leaves r n (confined start a) := by
  intro w w' _ ha
  obtain ⟨hw, ha⟩ := Option.ite_none_left_eq_some.mp ha
  obtain ⟨front, -, rfl⟩ := Option.map_eq_some_iff.mp ha
  rw [Nat.not_lt] at hw
  refine List.append_ne_nil_of_right_ne_nil _ (List.length_pos_iff.mp ?_)
  rw [List.length_drop]
  omega

/-- A word stays one under rules of which each leaves something of any word. -/
theorem inTurn_ne_nil {rules : List Rule} (h : ∀ a ∈ rules, Leaves r 1 a) {w : List Char}
    (hw : w ≠ []) : inTurn rules r w ≠ [] := by
  induction rules generalizing w with
  | nil => exact hw
  | cons a rules ih =>
    obtain ⟨ha, h⟩ := List.forall_mem_cons.mp h
    exact ih h (ha.apply hw)

theorem reduceBy_ne_nil {rules : List Rule} (h : ∀ a ∈ rules, Leaves r 1 a) {word : List Char}
    (hw : word ≠ []) : reduceBy rules r word ≠ [] :=
  mt List.reverse_eq_nil_iff.mp (inTurn_ne_nil h (mt List.reverse_eq_nil_iff.mp hw))

end Rule

/-! ### Where regions begin -/

theorem length_past?_lt {p : Char → Bool} {cs rest : List Char} (h : past? p cs = some rest) :
    rest.length < cs.length := by
  induction cs with
  | nil => cases h
  | cons c cs ih =>
    rw [past?] at h
    rw [List.length_cons]
    split at h
    · cases h
      omega
    · have := ih h
      omega

theorem length_pastSyllable?_lt {vowel : Char → Bool} {cs rest : List Char}
    (h : pastSyllable? vowel cs = some rest) : rest.length < cs.length := by
  obtain ⟨mid, hm, h⟩ := Option.bind_eq_some_iff.mp h
  exact Nat.lt_trans (length_past?_lt h) (length_past?_lt hm)

/-- What follows one of some beginnings is shorter than the word. -/
theorem length_lt_of_findSome?_dropInitial? {texts : List String} {word rest : List Char}
    (h : (texts.findSome? fun s => dropInitial? s.toList word) = some rest)
    (nonempty : ∀ s ∈ texts, s.toList ≠ []) : rest.length < word.length := by
  obtain ⟨s, hs, h⟩ := List.exists_of_findSome?_eq_some h
  have := List.length_pos_iff.mpr (nonempty s hs)
  rw [dropInitial?_eq_some_iff.mp h, List.length_append]
  omega

/-- A region does not begin with the word if what it begins with is shorter than the word. -/
theorem startOf_pos {word : List Char} {rest? : Option (List Char)} (hw : word ≠ [])
    (h : ∀ rest, rest? = some rest → rest.length < word.length) : 0 < startOf word.length rest? := by
  have := List.length_pos_iff.mpr hw
  rw [startOf]
  cases rest? with
  | none => simpa using this
  | some rest =>
    have := h rest rfl
    simp only [Option.map_some, Option.getD_some]
    omega

namespace Regions

variable (vowel : Char → Bool) (least : Nat) {word : List Char}

theorem r1_ofSyllables_pos (hw : word ≠ []) : 0 < (ofSyllables vowel least word).r1 := by
  rw [ofSyllables]
  split
  · exact List.length_pos_iff.mpr hw
  · exact Nat.lt_of_lt_of_le (startOf_pos hw fun _ => length_pastSyllable?_lt) (Nat.le_max_right _ _)

theorem r2_ofSyllables_pos (hw : word ≠ []) : 0 < (ofSyllables vowel least word).r2 := by
  rw [ofSyllables]
  split
  · exact List.length_pos_iff.mpr hw
  · refine startOf_pos hw fun rest2 h => ?_
    obtain ⟨rest1, h1, h2⟩ := Option.bind_eq_some_iff.mp h
    exact Nat.lt_trans (length_pastSyllable?_lt h2) (length_pastSyllable?_lt h1)

private theorem length_pastOpening?_lt {rest : List Char} (h : pastOpening? vowel word = some rest) :
    rest.length < word.length := by
  cases word with
  | nil => cases h
  | cons a cs =>
    cases cs with
    | nil => cases h
    | cons b cs =>
      have later : ∀ {p : Char → Bool}, past? p cs = some rest → rest.length < (a :: b :: cs).length := by
        intro p hp
        have := length_past?_lt hp
        simp only [List.length_cons]
        omega
      simp only [pastOpening?] at h
      split at h
      · split at h
        · exact later h
        · exact later h
      · split at h
        · cases cs with
          | nil => cases h
          | cons c cs =>
            cases h
            simp only [List.length_cons]
            omega
        · exact later h

theorem rv_ofOpening_pos (hw : word ≠ []) : 0 < (ofOpening vowel word).rv :=
  startOf_pos hw fun _ => length_pastOpening?_lt vowel

theorem r1_ofOpening_pos (hw : word ≠ []) : 0 < (ofOpening vowel word).r1 :=
  r1_ofSyllables_pos vowel 0 hw

theorem r2_ofOpening_pos (hw : word ≠ []) : 0 < (ofOpening vowel word).r2 :=
  r2_ofSyllables_pos vowel 0 hw

end Regions

/-! ### Letters rewritten before and after -/

theorem markAfterVowel_eq_nil_iff {vowel : Char → Bool} {marks : List (Char × Char × Bool)}
    {afterVowel : Bool} {word : List Char} :
    markAfterVowel vowel marks afterVowel word = [] ↔ word = [] := by
  cases word with
  | nil => simp [markAfterVowel]
  | cons c cs =>
    rw [markAfterVowel]
    split
    · split <;> simp
    · simp

theorem respell_eq_nil_iff {pairs : List (Char × Char)} {word : List Char} :
    respell pairs word = [] ↔ word = [] := List.map_eq_nil_iff

end TextAnalysis.Stem
