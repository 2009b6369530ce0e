import TextAnalysis.Proofs.Settings.Languages
import TextAnalysis.Proofs.Settings.Stored

/-!
# How languages are spelled in settings

A language can be named in many ways. Settings that name the same languages make the same tokenizers, but whether
an index can be served is decided by the names as they are written. Construction arguments write canonical names,
and all other sources of settings leave the names as they were given.
-/

namespace TextAnalysis

/-- A blank before an identifier does not matter. -/
theorem Language.parse_blank_append {word : String} {l : Language} (parsed : parse word = .ok l) :
    parse (" " ++ word) = .ok l := by
  have blank : Text.isBlank ' ' = true := by decide
  have trimmed : Text.trim (" " ++ word) = Text.trim word := by
    rw [Text.trim, Text.trim, String.toList_append]
    change String.ofList (Text.trimEnd ((' ' :: word.toList).dropWhile Text.isBlank)) = _
    rw [List.dropWhile_cons_of_pos blank]
  rw [parse_eq_ok_iff, ofIdentifier?_eq_some_iff] at parsed ⊢
  rwa [trimmed]

namespace Settings

/-! ### Names from construction arguments -/

/-- The languages are those that construction arguments name. -/
def NamedInArguments (s : Settings) : Prop :=
  ∃ (base : Settings) (arguments : List String) (word : String),
    base.applyArguments arguments = (.ok (), s) ∧ .language word ∈ unitsOf arguments

private theorem requestedLanguages_ne_nil {units : List ArgumentUnit} {requests : List Request}
    (means : List.Forall₂ Means units requests) {word : String} (named : .language word ∈ units) :
    requestedLanguages requests ≠ [] := by
  induction means with
  | nil => cases named
  | @cons unit request units requests first _ ih =>
    rw [requestedLanguages, ne_eq, List.map_eq_nil_iff, List.filterMap_cons]
    obtain rfl | named := List.mem_cons.mp named
    · cases first with
      | language identifies => exact List.cons_ne_nil _ _
    · have later := ih named
      rw [requestedLanguages, ne_eq, List.map_eq_nil_iff] at later
      cases request.language? with
      | none => exact later
      | some l => exact List.cons_ne_nil _ _

/-- Construction arguments write the canonical names of the languages. -/
theorem NamedInArguments.languages_eq {s : Settings} (named : s.NamedInArguments) {languages : List Language}
    (known : s.resolve = .ok languages) : s.languages = languages.map Language.name := by
  obtain ⟨base, arguments, word, accepted, mem⟩ := named
  obtain ⟨requests, means, rfl⟩ := applyArguments_eq_ok_iff.mp accepted
  have written : (base.granting requests).languages = requestedLanguages requests :=
    if_neg (requestedLanguages_ne_nil means mem)
  obtain ⟨-, parsed⟩ := resolve_eq_ok_iff.mp known
  rw [written, requestedLanguages, Language.mapM_parse_names] at parsed
  rw [written, requestedLanguages, Except.ok.inj parsed]

/-! ### Settings of the same languages -/

/-- The settings with a blank before the first name. -/
def respelled (s : Settings) : Settings :=
  { s with languages := s.languages.modifyHead (" " ++ ·) }

/-- Known languages are the same with the blank. -/
theorem resolve_respelled {s : Settings} {languages : List Language} (known : s.resolve = .ok languages) :
    s.respelled.resolve = .ok languages := by
  rw [resolve_eq_ok_iff] at known ⊢
  rw [respelled]
  obtain ⟨named, parsed⟩ := known
  cases words : s.languages with
  | nil => exact absurd words named
  | cons word rest =>
    rw [words] at parsed
    obtain ⟨l, others, first, rest, rfl⟩ := Language.mapM_parse_cons_eq_ok_iff.mp parsed
    refine ⟨List.cons_ne_nil _ _, ?_⟩
    exact Language.mapM_parse_cons_eq_ok_iff.mpr ⟨l, others, Language.parse_blank_append first, rest, rfl⟩

/-- An index of the settings with the blank is not served. -/
theorem not_serves_respelled {s : Settings} (named : s.languages ≠ []) : s.serves s.respelled = false := by
  refine Bool.eq_false_iff.mpr fun serves => ?_
  obtain ⟨same, -⟩ := (serves_iff s s.respelled).mp serves
  rw [respelled] at same
  cases words : s.languages with
  | nil => exact named words
  | cons word rest =>
    rw [words] at same
    have length := congrArg String.length (List.cons.inj same).1
    change word.length = (" " ++ word).length at length
    rw [String.length_append] at length
    change word.length = 1 + word.length at length
    omega

/-- Settings of the same known languages that agree on characters make the same tokenizers, but for the least
length of a token. An index of the one is served with the other exactly if each language is spelled alike, and is
refused otherwise as an index of other settings. If construction arguments name the languages of the one, those of
the other must have canonical names; so nothing is refused if they name the languages of both. Any languages can be
spelled in a way that is refused. -/
theorem serves_iff_of_resolve {a b : Settings} {languages : List Language} (known : a.resolve = .ok languages)
    (known' : b.resolve = .ok languages) (diacritics : a.removeDiacritics = b.removeDiacritics)
    (tokenChars : a.tokenCharacters = b.tokenCharacters) (separators : a.separators = b.separators) :
    a.cascade = b.cascade ∧ a.wordArguments = b.wordArguments ∧
      (a.serves b = true ↔ ∀ i : Nat, a.languages[i]? = b.languages[i]?) ∧
      (∀ (files : Files) (path : String), files.present path = true → ofFile files path = .ok b →
        a.checkStored files path =
          (if a.languages = b.languages then .ok ()
            else .error (.settingsMismatch "config does not match index state"), files)) ∧
      (a.NamedInArguments → (a.serves b = true ↔ b.languages = languages.map Language.name)) ∧
      (b.NamedInArguments → (a.serves b = true ↔ a.languages = languages.map Language.name)) ∧
      (a.NamedInArguments → b.NamedInArguments → a.serves b = true) ∧
      ∃ c : Settings, c.resolve = .ok languages ∧ c.removeDiacritics = a.removeDiacritics ∧
        c.tokenCharacters = a.tokenCharacters ∧ c.separators = a.separators ∧ a.serves c = false := by
  have same : a.SameIndex b ↔ a.languages = b.languages :=
    ⟨fun same => same.1, fun spelled => ⟨spelled, diacritics, tokenChars, separators⟩⟩
  have spelled : a.serves b = true ↔ a.languages = b.languages := (serves_iff a b).trans same
  refine ⟨?_, ?_, spelled.trans List.ext_getElem?_iff, ?_, ?_, ?_, ?_, ?_⟩
  · rw [cascade, cascade, known, known']
  · simp only [wordArguments, overrideArguments, Settings.diacritics, diacritics, tokenChars, separators]
  · intro files path present holds
    simp only [checkStored_of_present present holds, verdictOn, same]
  · intro named
    rw [spelled, named.languages_eq known, eq_comm]
  · intro named
    rw [spelled, named.languages_eq known']
  · intro named named'
    rw [spelled, named.languages_eq known, named'.languages_eq known']
  · have named := (resolve_eq_ok_iff.mp known).1
    exact ⟨a.respelled, resolve_respelled known, rfl, rfl, rfl, not_serves_respelled named⟩

/-- An index whose languages two arguments name is served with their canonical names, also if other tokens are
kept, and not with a code in the place of one. -/
theorem serves_of_two_arguments :
    let a : Settings := { languages := ["german", "french"] }
    let b : Settings := { languages := ["german", "french"], minTokenLength := 5 }
    let c : Settings := { languages := ["german", "fr"] }
    a.NamedInArguments ∧ a.resolve = .ok [.german, .french] ∧ b.resolve = .ok [.german, .french] ∧
      c.resolve = .ok [.german, .french] ∧ a.serves b = true ∧ a.serves c = false := by
  intro a b c
  have named : a.NamedInArguments := ⟨{}, ["DEU", "' fr'"], "DEU", by rfl, by decide⟩
  have known : a.resolve = .ok [.german, .french] := by rfl
  have known' : b.resolve = .ok [.german, .french] := by rfl
  have known'' : c.resolve = .ok [.german, .french] := by rfl
  obtain ⟨-, -, -, -, served, -⟩ := serves_iff_of_resolve known known' rfl rfl rfl
  obtain ⟨-, -, -, -, refused, -⟩ := serves_iff_of_resolve known known'' rfl rfl rfl
  refine ⟨named, known, known', known'', (served named).mpr rfl, Bool.eq_false_iff.mpr fun serves => ?_⟩
  exact absurd ((refused named).mp serves) (by decide)

/-- English by its code and English by its name are the same languages, and an index of the one is not served with
the other. -/
theorem not_serves_of_code :
    let a : Settings := { languages := ["en"] }
    let b : Settings := { languages := ["english"] }
    a.resolve = .ok [.english] ∧ b.resolve = .ok [.english] ∧ a.removeDiacritics = b.removeDiacritics ∧
      a.tokenCharacters = b.tokenCharacters ∧ a.separators = b.separators ∧ a.serves b = false := by
  exact ⟨by rfl, by rfl, rfl, rfl, rfl, by decide⟩

end Settings

end TextAnalysis
