/-!
# Lists that are cut off

A list is cut off from another one if that one begins with it and goes on.
-/

namespace TextAnalysis.Blob

variable {α : Type}

/-- The list ends before the other one does, and agrees with it up to there. -/
def IsCutOf (part whole : List α) : Prop := ∃ a rest, whole = part ++ a :: rest

/-- The empty list cannot be cut. -/
theorem not_isCutOf_nil (part : List α) : ¬ IsCutOf part [] := by
  rintro ⟨a, rest, h⟩
  simp at h

/-- A list that is cut off is a beginning. -/
theorem IsCutOf.isPrefix {part whole : List α} (h : IsCutOf part whole) : part <+: whole := by
  obtain ⟨a, rest, rfl⟩ := h
  exact List.prefix_append _ _

/-- A list that is cut off is shorter. -/
theorem IsCutOf.length_lt {part whole : List α} (h : IsCutOf part whole) :
    part.length < whole.length := by
  obtain ⟨a, rest, rfl⟩ := h
  rw [List.length_append, List.length_cons]
  omega

/-- Nothing is left if one item is cut off. -/
theorem IsCutOf.eq_nil {part : List α} {a : α} (h : IsCutOf part [a]) : part = [] :=
  List.length_eq_zero_iff.mp (Nat.lt_one_iff.mp h.length_lt)

/-- A list of two parts is cut in the first part or in the second one. -/
theorem IsCutOf.of_append {part front back : List α} (h : IsCutOf part (front ++ back)) :
    IsCutOf part front ∨ ∃ part', part = front ++ part' ∧ IsCutOf part' back := by
  obtain ⟨a, rest, h⟩ := h
  rcases List.append_eq_append_iff.mp h with ⟨part', hp, hb⟩ | ⟨front', hf, hr⟩
  · exact Or.inr ⟨part', hp, a, rest, hb⟩
  · cases front' with
    | nil => exact Or.inr ⟨[], by simpa using hf.symm, a, rest, hr.symm⟩
    | cons b front' => exact Or.inl ⟨b, front', hf⟩

/-- Any other list with which a list begins is cut off from it. -/
theorem IsCutOf.of_isPrefix {part whole : List α} (h : part <+: whole) (ne : part ≠ whole) :
    IsCutOf part whole := by
  obtain ⟨back, rfl⟩ := h
  cases back with
  | nil => exact absurd (List.append_nil part).symm ne
  | cons a rest => exact ⟨a, rest, rfl⟩

end TextAnalysis.Blob
