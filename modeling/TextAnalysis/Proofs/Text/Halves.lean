import Mathlib.Data.List.Chain
import TextAnalysis.Text.Alphanumeric
import TextAnalysis.Text.CombiningMark
import TextAnalysis.Text.Decomposition
import TextAnalysis.Text.Lowercase

/-!
# Tables searched by halves

A table of characters is searched from its first entry on. Its entries stand in ascending order, so that the
same entry is found by halves, in about as many steps as the number of entries has binary digits. Statements
that look up many characters can then be decided.
-/

namespace TextAnalysis.Text

/-- A list as two halves around an entry, which may be in halves themselves. -/
inductive Halves (α : Type) where
  | row (entries : List α)
  | node (low : Halves α) (middle : α) (high : Halves α)

namespace Halves

variable {α : Type}

/-- The entries, in order. -/
def toList : Halves α → List α
  | row entries => entries
  | node low middle high => low.toList ++ middle :: high.toList

/-- The first entries of a list in halves, as many as there is room for down to a depth, and the entries after
them. -/
def build : Nat → List α → Halves α × List α
  | 0, entries => (row [], entries)
  | depth + 1, entries =>
    match build depth entries with
    | (low, []) => (low, [])
    | (low, middle :: rest) =>
      match build depth rest with
      | (high, rest) => (node low middle high, rest)

/-- A list in halves. Entries for which there is no room down to the depth stay in a row. -/
def ofList (depth : Nat) (entries : List α) : Halves α :=
  match build depth entries with
  | (t, []) => t
  | (t, middle :: rest) => node t middle (row rest)

/-- The first entry whose key is not below `n`, or else the entry that comes after all. -/
def seek (key : α → Nat) (n : Nat) : Halves α → Option α → Option α
  | row entries, after => (entries.find? fun entry => n ≤ key entry).or after
  | node low middle high, after =>
    -- The kernel computes this comparison of two literals in one step.
    bif n.ble (key middle) then low.seek key n (some middle) else high.seek key n after

private theorem toList_build (depth : Nat) (entries : List α) :
    (build depth entries).1.toList ++ (build depth entries).2 = entries := by
  induction depth generalizing entries with
  | zero => rfl
  | succ depth ih =>
    have front := ih entries
    rw [build]
    generalize build depth entries = built at front
    obtain ⟨low, _ | ⟨middle, rest⟩⟩ := built
    · exact front
    · dsimp only [toList]
      rw [List.append_assoc, List.cons_append, ih]
      exact front

/-- Nothing is lost where a list is taken in halves. -/
theorem toList_ofList (depth : Nat) (entries : List α) : (ofList depth entries).toList = entries := by
  have whole := toList_build depth entries
  rw [ofList]
  generalize build depth entries = built at whole
  obtain ⟨t, _ | ⟨middle, rest⟩⟩ := built
  · rwa [List.append_nil] at whole
  · exact whole

/-- In ascending order the first entry whose key is not below a number is found by halves. -/
theorem seek_eq {key : α → Nat} (n : Nat) {t : Halves α}
    (ascending : t.toList.Pairwise fun entry next => key entry < key next) (after : Option α) :
    t.seek key n after = (t.toList.find? fun entry => n ≤ key entry).or after := by
  induction t generalizing after with
  | row entries => rfl
  | node low middle high ihLow ihHigh =>
    obtain ⟨lowAscending, highAscending, across⟩ := List.pairwise_append.mp ascending
    simp only [seek, cond_eq_ite, Nat.ble_eq, toList, List.find?_append]
    split
    · next le =>
      rw [ihLow lowAscending, List.find?_cons_of_pos (by simpa using le), Option.or_assoc, Option.some_or]
    · next below =>
      have none : low.toList.find? (fun entry => n ≤ key entry) = none := by
        refine List.find?_eq_none.mpr fun entry mem => ?_
        have := across entry mem middle List.mem_cons_self
        rw [decide_eq_true_eq]
        omega
      rw [ihHigh highAscending.of_cons, none, Option.none_or,
        List.find?_cons_of_neg (by rwa [decide_eq_true_eq])]

/-- If each key is below the next one, the first entry whose key is not below a number is found in the halves
of the list. -/
theorem seek_ofList {key : α → Nat} {entries : List α}
    (ascending : entries.IsChain fun entry next => key entry < key next) (depth n : Nat) :
    (ofList depth entries).seek key n none = entries.find? fun entry => n ≤ key entry := by
  have keys := List.isChain_iff_pairwise.mp ((List.isChain_map key).mpr ascending)
  have pairwise := List.pairwise_map.mp keys
  rw [← toList_ofList depth entries] at pairwise
  rw [seek_eq n pairwise, toList_ofList, Option.or_none]

end Halves

/-! ### What is found in a table -/

/-- The entry of a code point is the first one that is not below it, if it is for this code point. -/
theorem lookupAscending?_eq {α : Type} (t : List (Nat × α)) (n : Nat) :
    lookupAscending? t n =
      (t.find? fun entry => n ≤ entry.1).bind fun entry => if n = entry.1 then some entry.2 else none := by
  induction t with
  | nil => rfl
  | cons entry t ih =>
    obtain ⟨m, a⟩ := entry
    rw [lookupAscending?]
    rcases Nat.lt_trichotomy n m with below | here | above
    · rw [if_pos below, List.find?_cons_of_pos (by simpa using below.le), Option.bind_some,
        if_neg below.ne]
    · rw [if_neg here.not_lt, if_pos here, List.find?_cons_of_pos (by simpa using here.le),
        Option.bind_some, if_pos here]
    · rw [if_neg above.le.not_gt, if_neg above.ne', List.find?_cons_of_neg (by simpa using above), ih]

/-- A table has the entries that are found in it. -/
theorem mem_of_lookupAscending? {α : Type} {t : List (Nat × α)} {n : Nat} {a : α}
    (found : lookupAscending? t n = some a) : (n, a) ∈ t := by
  rw [lookupAscending?_eq] at found
  obtain ⟨entry, first, same⟩ := Option.bind_eq_some_iff.mp found
  obtain ⟨rfl, eq⟩ := Option.ite_none_right_eq_some.mp same
  obtain rfl := Option.some.inj eq
  exact List.mem_of_find?_eq_some first

/-- The ranges have code points and end one after another. -/
def Ranges.Ordered (t : Ranges) : Prop :=
  (∀ range ∈ t, range.1 ≤ range.2) ∧ t.IsChain fun range next => range.2 < next.2

instance (t : Ranges) : Decidable t.Ordered := instDecidableAnd

/-- A code point is in a class if it is in the first range that does not end below it. -/
theorem Ranges.contains_eq {t : Ranges} (wellFormed : ∀ range ∈ t, range.1 ≤ range.2) (n : Nat) :
    t.contains n = (t.find? fun range => n ≤ range.2).any fun range => range.1 ≤ n := by
  induction t with
  | nil => rfl
  | cons range t ih =>
    obtain ⟨first, last⟩ := range
    obtain ⟨here, wellFormed⟩ := List.forall_mem_cons.mp wellFormed
    rw [contains]
    by_cases le : n ≤ last
    · rw [List.find?_cons_of_pos (by simpa using le), Option.any_some, decide_eq_true le, Bool.true_or]
      split
      · next below => exact (decide_eq_false below.not_ge).symm
      · next reached => exact (decide_eq_true (Nat.le_of_not_lt reached)).symm
    · have reached : ¬ n < first := fun below => le (below.le.trans here)
      rw [List.find?_cons_of_neg (by simpa using le), if_neg reached, decide_eq_false le, Bool.false_or,
        ih wellFormed]

/-- Ordered ranges are searched by halves. -/
theorem Ranges.contains_halves {t : Ranges} (ordered : t.Ordered) (depth n : Nat) :
    t.contains n = ((Halves.ofList depth t).seek Prod.snd n none).any fun range => range.1 ≤ n := by
  rw [contains_eq ordered.1, Halves.seek_ofList ordered.2]

/-- Whether no range reaches into the code points between two. -/
def Ranges.avoids (t : Ranges) (first last : Nat) : Bool :=
  (t.find? fun range => first ≤ range.2).all fun range => last < range.1

/-- Ranges have no code point of a part that they avoid. -/
theorem Ranges.contains_of_avoids {t : Ranges} {first last n : Nat} (avoids : t.avoids first last = true)
    (ge : first ≤ n) (le : n ≤ last) : t.contains n = false := by
  induction t with
  | nil => rfl
  | cons range t ih =>
    rw [Ranges.avoids] at avoids
    rw [contains]
    by_cases reached : first ≤ range.2
    · rw [List.find?_cons_of_pos (by simpa using reached), Option.all_some, decide_eq_true_eq] at avoids
      rw [if_pos (Nat.lt_of_le_of_lt le avoids)]
    · rw [List.find?_cons_of_neg (by simpa using reached)] at avoids
      split
      · rfl
      · rw [ih avoids, Bool.or_false]
        exact decide_eq_false (by omega)

/-- Whether ordered ranges avoid a part is told by halves. -/
theorem Ranges.avoids_halves {t : Ranges} (ordered : t.Ordered) (depth first last : Nat) :
    t.avoids first last =
      ((Halves.ofList depth t).seek Prod.snd first none).all fun range => last < range.1 := by
  rw [avoids, Halves.seek_ofList ordered.2]

/-- The lowercase form of a code point if it is among the capitals of a run. -/
def CapitalRun.lower? (r : CapitalRun) (n : Nat) : Option Nat :=
  if r.first ≤ n ∧ (n - r.first) % r.step = 0 then some (r.lower + (n - r.first)) else none

/-- A code point has its lowercase form in the first run that does not end below it, if at all. -/
theorem lowerCode_eq {rs : List CapitalRun} (apart : rs.IsChain fun r next => r.last < next.first)
    (wellFormed : ∀ r ∈ rs, r.first ≤ r.last) (n : Nat) :
    lowerCode rs n = ((rs.find? fun r => n ≤ r.last).bind (·.lower? n)).getD n := by
  induction rs with
  | nil => rfl
  | cons r rs ih =>
    obtain ⟨here, wellFormed⟩ := List.forall_mem_cons.mp wellFormed
    rw [lowerCode]
    by_cases le : n ≤ r.last
    · rw [List.find?_cons_of_pos (by simpa using le), Option.bind_some, CapitalRun.lower?]
      by_cases below : n < r.first
      · rw [if_pos below, if_neg (fun h => below.not_ge h.1), Option.getD_none]
      · rw [if_neg below]
        by_cases onStep : (n - r.first) % r.step = 0
        · rw [if_pos ⟨le, onStep⟩, if_pos ⟨Nat.le_of_not_lt below, onStep⟩, Option.getD_some]
        · rw [if_neg (fun h => onStep h.2), if_neg (fun h => onStep h.2), Option.getD_none]
          -- Between the capitals of this run there are none of the next.
          cases rs with
          | nil => rfl
          | cons next rs =>
            have later := (List.isChain_cons_cons.mp apart).1
            rw [lowerCode, if_pos (Nat.lt_of_le_of_lt le later)]
    · have reached : ¬ n < r.first := fun below => le (below.le.trans here)
      rw [List.find?_cons_of_neg (by simpa using le), if_neg reached, if_neg (fun h => le h.1),
        ih apart.tail wellFormed]

/-! ### The tables in halves -/

private theorem ascending_decompositions :
    decompositions.IsChain fun entry next => entry.1 < next.1 := by
  simp only [decompositions, List.isChain_append, List.getLast?_append]
  decide +kernel

/-- Decompositions are looked up by halves. -/
theorem lookupAscending?_decompositions (n : Nat) :
    lookupAscending? decompositions n =
      ((Halves.ofList 12 decompositions).seek Prod.fst n none).bind fun entry =>
        if n = entry.1 then some entry.2 else none := by
  rw [lookupAscending?_eq, Halves.seek_ofList ascending_decompositions]

private theorem ordered_capitals : (∀ r ∈ capitals, r.first ≤ r.last) ∧
    capitals.IsChain fun r next => r.last < next.first ∧ r.last < next.last := by
  decide +kernel

/-- Lowercase forms are looked up by halves. -/
theorem lowerCode_capitals (n : Nat) :
    lowerCode capitals n =
      (((Halves.ofList 8 capitals).seek CapitalRun.last n none).bind (·.lower? n)).getD n := by
  obtain ⟨wellFormed, chain⟩ := ordered_capitals
  rw [lowerCode_eq (chain.imp fun _ _ => And.left) wellFormed, Halves.seek_ofList (chain.imp fun _ _ => And.right)]

private theorem ordered_markRanges : markRanges.Ordered := by
  decide +kernel

/-- Combining marks are told by halves. -/
theorem contains_markRanges (n : Nat) :
    markRanges.contains n =
      ((Halves.ofList 9 markRanges).seek Prod.snd n none).any fun range => range.1 ≤ n :=
  Ranges.contains_halves ordered_markRanges 9 n

/-- Whether a part has no combining marks is told by halves. -/
theorem avoids_markRanges (first last : Nat) :
    markRanges.avoids first last =
      ((Halves.ofList 9 markRanges).seek Prod.snd first none).all fun range => last < range.1 :=
  Ranges.avoids_halves ordered_markRanges 9 first last

private theorem ordered_alphanumericRanges : alphanumericRanges.Ordered := by
  decide +kernel

/-- Letters and numbers are told by halves. -/
theorem contains_alphanumericRanges (n : Nat) :
    alphanumericRanges.contains n =
      ((Halves.ofList 10 alphanumericRanges).seek Prod.snd n none).any fun range => range.1 ≤ n :=
  Ranges.contains_halves ordered_alphanumericRanges 10 n

end TextAnalysis.Text
