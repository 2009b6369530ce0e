import TextAnalysis.Proofs.Settings.Arguments

/-!
# Laws of the languages of settings

Settings that name known languages give a cascade of these. Settings that name none, or one that is unknown,
are at fault. Arguments that are accepted leave the languages or put canonical names in their place, so known
languages stay known.
-/

namespace TextAnalysis

namespace Language

/-- A text identifies a language, or it is an error. -/
theorem parse_eq_ok_iff {s : String} {l : Language} : parse s = .ok l ↔ ofIdentifier? s = some l := by
  rw [parse]
  cases ofIdentifier? s <;> simp

/-- A text that identifies no language is an error. -/
theorem parse_eq_error_iff {s : String} {e : Error} :
    parse s = .error e ↔
      (∀ l : Language, Text.asciiLowercase (Text.trim s) ∉ l.identifiers) ∧
        e = .configuration ("unsupported stemmer language '" ++ s ++ "'") := by
  have unknown :
      ofIdentifier? s = none ↔ ∀ l : Language, Text.asciiLowercase (Text.trim s) ∉ l.identifiers := by
    simp only [Option.eq_none_iff_forall_ne_some, ne_eq, ofIdentifier?_eq_some_iff]
  rw [parse, ← unknown]
  cases ofIdentifier? s <;> simp [eq_comm]

/-- The name of a language identifies it. -/
theorem parse_name (l : Language) : parse l.name = .ok l := by
  have identifies : Text.asciiLowercase (Text.trim l.name) ∈ l.identifiers := by
    cases l <;> decide +kernel
  exact parse_eq_ok_iff.mpr (ofIdentifier?_eq_some_iff.mpr identifies)

/-- The names of languages identify them. -/
theorem mapM_parse_names (languages : List Language) :
    (languages.map name).mapM parse = .ok languages := by
  induction languages with
  | nil => rfl
  | cons l languages ih =>
    rw [List.map_cons, List.mapM_cons, parse_name, ih]
    rfl

/-- Words identify languages if the first word does and the others do. -/
theorem mapM_parse_cons_eq_ok_iff {word : String} {words : List String} {languages : List Language} :
    (word :: words).mapM parse = .ok languages ↔
      ∃ l others, parse word = .ok l ∧ words.mapM parse = .ok others ∧ languages = l :: others := by
  rw [List.mapM_cons]
  cases first : parse word with
  | error e => exact ⟨nofun, fun ⟨_, _, h, _⟩ => nomatch h⟩
  | ok l =>
    cases rest : words.mapM parse with
    | error e => exact ⟨nofun, fun ⟨_, _, _, h, _⟩ => nomatch h⟩
    | ok others =>
      constructor
      · exact fun h => ⟨l, others, rfl, rfl, (Except.ok.inj h).symm⟩
      · rintro ⟨l', others', same, same', rfl⟩
        obtain rfl := Except.ok.inj same
        obtain rfl := Except.ok.inj same'
        rfl

/-- Words identify languages, or one of them is an error. -/
theorem mapM_parse_cases (words : List String) :
    (∃ languages, words.mapM parse = .ok languages ∧ ∀ word ∈ words, ∃ l, parse word = .ok l) ∨
      ∃ word ∈ words, ∃ e, parse word = .error e ∧ words.mapM parse = .error e := by
  induction words with
  | nil => exact .inl ⟨[], rfl, nofun⟩
  | cons word words ih =>
    rw [List.mapM_cons]
    cases first : parse word with
    | error e => exact .inr ⟨word, List.mem_cons_self, e, first, rfl⟩
    | ok l =>
      obtain ⟨languages, parsed, known⟩ | ⟨offending, mem, e, refused, failed⟩ := ih
      · rw [parsed]
        exact .inl ⟨l :: languages, rfl, List.forall_mem_cons.mpr ⟨⟨l, first⟩, known⟩⟩
      · rw [failed]
        exact .inr ⟨offending, List.mem_cons_of_mem word mem, e, refused, rfl⟩

/-- Where there are words, there are the languages that they identify. -/
theorem ne_nil_of_mapM_parse {words : List String} {languages : List Language}
    (parsed : words.mapM parse = .ok languages) (named : words ≠ []) : languages ≠ [] := by
  cases words with
  | nil => exact absurd rfl named
  | cons word words =>
    obtain ⟨l, others, -, -, rfl⟩ := mapM_parse_cons_eq_ok_iff.mp parsed
    exact List.cons_ne_nil l others

end Language

namespace Settings

/-- The languages of settings are known if there is one and each word identifies one. -/
theorem resolve_eq_ok_iff {s : Settings} {languages : List Language} :
    s.resolve = .ok languages ↔
      s.languages ≠ [] ∧ s.languages.mapM Language.parse = .ok languages := by
  rw [resolve]
  split
  · next none => simp [none]
  · next named => simp [named]

/-- What can be wrong with the languages of settings: there is none, or a word identifies none. -/
inductive LanguageFault (s : Settings) : Error → Prop
  | noLanguage (empty : s.languages = []) :
      LanguageFault s (.configuration "stemmer language list cannot be empty")
  | unknown {word : String} (mem : word ∈ s.languages)
      (noIdentifier : ∀ l : Language, Text.asciiLowercase (Text.trim word) ∉ l.identifiers) :
      LanguageFault s (.configuration ("unsupported stemmer language '" ++ word ++ "'"))

/-- The languages of settings are known, or they have a fault, which is the error. -/
theorem resolve_cases (s : Settings) :
    (∃ languages, s.resolve = .ok languages ∧ ∀ e, ¬ LanguageFault s e) ∨
      ∃ e, LanguageFault s e ∧ s.resolve = .error e := by
  rw [resolve]
  split
  · next empty => exact .inr ⟨_, .noLanguage empty, rfl⟩
  · next named =>
    obtain ⟨languages, parsed, known⟩ | ⟨word, mem, e, refused, failed⟩ :=
      Language.mapM_parse_cases s.languages
    · refine .inl ⟨languages, parsed, ?_⟩
      rintro _ (⟨empty⟩ | ⟨mem, noIdentifier⟩)
      · exact named empty
      · obtain ⟨l, parsed⟩ := known _ mem
        rw [Language.parse_eq_ok_iff, Language.ofIdentifier?_eq_some_iff] at parsed
        exact noIdentifier l parsed
    · obtain ⟨noIdentifier, rfl⟩ := Language.parse_eq_error_iff.mp refused
      exact .inr ⟨_, .unknown mem noIdentifier, failed⟩

/-- Known languages give a cascade of them. -/
theorem cascade_of_resolve {s : Settings} {languages : List Language}
    (known : s.resolve = .ok languages) :
    ∃ cascade, s.cascade = .ok cascade ∧ cascade.languages = languages := by
  obtain ⟨named, parsed⟩ := resolve_eq_ok_iff.mp known
  have nonempty := Language.ne_nil_of_mapM_parse parsed named
  refine ⟨⟨languages, nonempty⟩, ?_, rfl⟩
  rw [cascade, known]
  exact dif_neg nonempty

/-- Accepted arguments leave known languages known. -/
theorem exists_resolve_of_applyArguments {s overlaid : Settings} {languages : List Language}
    {arguments : List String} (known : s.resolve = .ok languages)
    (accepted : s.applyArguments arguments = (.ok (), overlaid)) :
    ∃ languages', overlaid.resolve = .ok languages' := by
  obtain ⟨requests, -, rfl⟩ := applyArguments_eq_ok_iff.mp accepted
  by_cases named : requestedLanguages requests = []
  · refine ⟨languages, ?_⟩
    rw [resolve_eq_ok_iff] at known ⊢
    simpa only [granting, if_pos named] using known
  · refine ⟨requests.filterMap Request.language?, resolve_eq_ok_iff.mpr ?_⟩
    simp only [granting, if_neg named]
    exact ⟨named, Language.mapM_parse_names _⟩

end Settings

end TextAnalysis
