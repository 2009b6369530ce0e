import TextAnalysis.Stem.Language

/-!
# Laws of languages

No identifier is shared by two languages.
-/

namespace TextAnalysis.Language

theorem mem_all (l : Language) : l ∈ all := by
  cases l <;> decide

private theorem eq_of_mem_identifiers :
    ∀ l ∈ all, ∀ l' ∈ all, ∀ word ∈ l.identifiers, word ∈ l'.identifiers → l = l' := by
  decide +kernel

/-- A text identifies the language of which it is an identifier, blanks around it and ASCII capitals
apart. -/
theorem ofIdentifier?_eq_some_iff {s : String} {l : Language} :
    ofIdentifier? s = some l ↔ Text.asciiLowercase (Text.trim s) ∈ l.identifiers := by
  rw [ofIdentifier?]
  generalize Text.asciiLowercase (Text.trim s) = word
  have identifies_of {l : Language} (found : all.find? (fun l => l.identifiers.contains word) = some l) :
      word ∈ l.identifiers := by
    have identifies := List.find?_some found
    exact List.contains_iff_mem.mp identifies
  constructor
  · exact identifies_of
  · intro identifies
    cases found : all.find? fun l => l.identifiers.contains word with
    | none => exact absurd (List.contains_iff_mem.mpr identifies) (List.find?_eq_none.mp found l (mem_all l))
    | some l' =>
      rw [eq_of_mem_identifiers l' (mem_all l') l (mem_all l) word (identifies_of found) identifies]

end TextAnalysis.Language
