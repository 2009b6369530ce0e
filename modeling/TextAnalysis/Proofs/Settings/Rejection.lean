import TextAnalysis.Proofs.Settings.Arguments

/-!
# Settings after arguments that are not accepted

Arguments are read up to the first unit with a fault. What the units before it give to keys is granted, but the
languages that they name are not, and the units after it are not read.
-/

namespace TextAnalysis.Settings

variable {s s' : Settings} {arguments : List String} {e : Error}

/-- Arguments are not accepted just if a first unit has a fault. This is the error, and what the units before it
give to keys is granted. -/
theorem applyArguments_eq_error_iff :
    s.applyArguments arguments = (.error e, s') ↔
      ∃ front offending back requests, Splits arguments (front ++ offending :: back) ∧
        List.Forall₂ Means front requests ∧ Faults offending e ∧ s' = s.grantingValues requests := by
  have rejected {front offending back requests e} (units : unitsOf arguments = front ++ offending :: back)
      (means : List.Forall₂ Means front requests) (faults : Faults offending e) :
      s.applyArguments arguments = (.error e, s.grantingValues requests) := by
    rw [applyArguments, units, applyUnits_append means, applyUnits_of_faults faults]
  constructor
  · intro applied
    obtain ⟨requests, means⟩ | ⟨front, offending, back, requests, e', units, means, faults⟩ :=
      forall₂_means_or_exists_faults (unitsOf arguments)
    · rw [applyArguments_eq_ok_iff.mpr ⟨requests, means, rfl⟩] at applied
      cases applied
    · rw [rejected units means faults] at applied
      obtain ⟨sameError, rfl⟩ := Prod.mk.inj applied
      obtain rfl := Except.error.inj sameError
      exact ⟨front, offending, back, requests, splits_iff.mpr units.symm, means, faults, rfl⟩
  · rintro ⟨front, offending, back, requests, splits, means, faults, rfl⟩
    exact rejected (splits_iff.mp splits).symm means faults

/-- What follows a unit with a fault does not matter. -/
theorem applyUnits_append_of_faults {front : List ArgumentUnit} {offending : ArgumentUnit}
    (faults : Faults offending e) (named : List String) (back back' : List ArgumentUnit) :
    s.applyUnits named (front ++ offending :: back) = s.applyUnits named (front ++ offending :: back') := by
  obtain ⟨requests, means⟩ | ⟨before, first, after, requests, e', rfl, means, faultsFirst⟩ :=
    forall₂_means_or_exists_faults front
  · rw [applyUnits_append means, applyUnits_append means, applyUnits_of_faults faults,
      applyUnits_of_faults faults]
  · rw [List.append_assoc, List.append_assoc, applyUnits_append means, applyUnits_append means,
      List.cons_append, List.cons_append, applyUnits_of_faults faultsFirst, applyUnits_of_faults faultsFirst]

/-- Arguments are not accepted just if a unit has a fault, and the error is that of the first such unit. The
settings then keep their languages, and each other field has the value that the last unit of its key before the
first fault gives it, or the one that it had if there is no such unit. What follows a unit with a fault does not
matter. -/
theorem arguments_rejected (s : Settings) (arguments : List String) :
    (∀ e s', s.applyArguments arguments = (.error e, s') ↔
      ∃ front offending back requests, Splits arguments (front ++ offending :: back) ∧
        List.Forall₂ Means front requests ∧ Faults offending e ∧
        s'.languages = s.languages ∧
        s'.removeDiacritics =
          (requests.filterMap Request.removeDiacritics?).getLast?.getD s.removeDiacritics ∧
        s'.tokenCharacters =
          (requests.filterMap Request.tokenCharacters?).getLast?.getD s.tokenCharacters ∧
        s'.separators = (requests.filterMap Request.separators?).getLast?.getD s.separators ∧
        s'.minTokenLength =
          (requests.filterMap Request.minTokenLength?).getLast?.getD s.minTokenLength) ∧
    ∀ front offending back e, Splits arguments (front ++ offending :: back) → Faults offending e →
      ∀ arguments' back', Splits arguments' (front ++ offending :: back') →
        s.applyArguments arguments' = s.applyArguments arguments := by
  refine ⟨fun e s' => applyArguments_eq_error_iff.trans ⟨?_, ?_⟩, ?_⟩
  · rintro ⟨front, offending, back, requests, splits, means, faults, rfl⟩
    exact ⟨front, offending, back, requests, splits, means, faults, rfl, rfl, rfl, rfl, rfl⟩
  · rintro ⟨front, offending, back, requests, splits, means, faults, languages, diacritics, tokenChars,
      separators, length⟩
    refine ⟨front, offending, back, requests, splits, means, faults, ?_⟩
    cases s'
    cases languages
    cases diacritics
    cases tokenChars
    cases separators
    cases length
    rfl
  · intro front offending back e splits faults arguments' back' splits'
    rw [applyArguments, applyArguments, ← splits_iff.mp splits, ← splits_iff.mp splits']
    exact applyUnits_append_of_faults faults [] back' back

/-- The length and the last characters before the fault are granted, and the language is not. -/
example : Settings.applyArguments {}
      ["fr", "tokenchars", "-", "min_token_length", "5", "tokenchars", "'_'", "remove_diacritics", "2", "x"] =
    (.error (.configuration "remove_diacritics must be 0 or 1, got '2'"),
      { tokenCharacters := "_", minTokenLength := 5 }) := by
  rfl

end TextAnalysis.Settings
