import TextAnalysis.Proofs.Settings.Drafts
import TextAnalysis.Proofs.Text.Numeral
import TextAnalysis.Settings.Environment

/-!
# Laws of settings from environment variables

Each variable that is set gives one field. Where all values are acceptable the variables make a draft, which
is laid over the settings at hand. A value that spells no truth value or no count is an error, whatever the
other variables are.
-/

namespace TextAnalysis.Settings

/-! ### Values -/

/-- The languages are the parts of the value between commas, without the blanks around them and without those
of which nothing is left. -/
def ListsLanguages (value : String) (languages : List String) : Prop :=
  ∃ parts : List String, parts ≠ [] ∧ (∀ part ∈ parts, ',' ∉ part.toList) ∧
    value = ",".intercalate parts ∧ languages = (parts.map Text.trim).filter (· ≠ "")

/-- The value spells a truth value, blanks around it and ASCII capitals apart. -/
def SpellsFlag (value : String) (flag : Bool) : Prop :=
  Text.asciiLowercase (Text.trim value) ∈
    if flag then ["1", "true", "yes", "on"] else ["0", "false", "no", "off"]

/-- The value spells a count, blanks around it apart. -/
def SpellsCount (value : String) (n : Nat) : Prop := Text.IsCountNumeral n (Text.trim value).toList

/-- There is no comma between commas. -/
private theorem not_mem_of_mem_splitOn {cs piece : List Char} (mem : piece ∈ cs.splitOn ',') :
    ',' ∉ piece := by
  induction cs generalizing piece with
  | nil =>
    rw [List.splitOn_nil, List.mem_singleton] at mem
    rw [mem]
    exact List.not_mem_nil
  | cons c cs ih =>
    rw [List.splitOn_cons_eq_if_modifyHead] at mem
    split at mem
    · obtain rfl | mem := List.mem_cons.mp mem
      · exact List.not_mem_nil
      · exact ih mem
    · next noComma =>
      cases pieces : cs.splitOn ',' with
      | nil => exact absurd pieces (List.splitOn_ne_nil ',' cs)
      | cons first others =>
        rw [pieces] at mem ih
        obtain rfl | mem := List.mem_cons.mp mem
        · rw [List.mem_cons, not_or]
          exact ⟨fun same => noComma (beq_iff_eq.mpr same.symm), ih List.mem_cons_self⟩
        · exact ih (List.mem_cons_of_mem first mem)

/-- A value lists its languages in one way. -/
theorem listsLanguages_iff {value : String} {languages : List String} :
    ListsLanguages value languages ↔ languages = listedLanguages value := by
  have joined (parts : List String) :
      (",".intercalate parts).toList = [','].intercalate (parts.map String.toList) :=
    String.toList_intercalate
  have texts (pieces : List (List Char)) : (pieces.map String.ofList).map String.toList = pieces := by simp
  constructor
  · rintro ⟨parts, some_parts, commas, rfl, rfl⟩
    have pieces : commaPieces (",".intercalate parts) = parts := by
      rw [commaPieces, joined,
        List.splitOn_intercalate ',' (by simpa using commas) (by simpa using some_parts)]
      simp
    rw [listedLanguages, pieces]
  · rintro rfl
    refine ⟨commaPieces value, ?_, ?_, ?_, rfl⟩
    · simp [commaPieces]
    · intro part mem
      obtain ⟨piece, memPiece, rfl⟩ := List.mem_map.mp mem
      rw [String.toList_ofList]
      exact not_mem_of_mem_splitOn memPiece
    · apply String.toList_inj.mp
      rw [joined, commaPieces, texts, List.intercalate_splitOn]

/-- What spells a truth value is read as that. -/
theorem parseFlag_of_spells {value : String} {flag : Bool} (spells : SpellsFlag value flag) :
    parseFlag value = .ok flag := by
  have distinct : ∀ word ∈ ["0", "false", "no", "off"], word ∉ ["1", "true", "yes", "on"] := by decide
  unfold parseFlag
  cases flag with
  | true => exact if_pos (List.contains_iff_mem.mpr spells)
  | false =>
    have notTrue := mt List.contains_iff_mem.mp (distinct _ spells)
    exact (if_neg notTrue).trans (if_pos (List.contains_iff_mem.mpr spells))

/-- What spells no truth value is an error. -/
theorem parseFlag_of_not_spells {value : String} (noFlag : ∀ flag, ¬ SpellsFlag value flag) :
    parseFlag value =
      .error (.invalidArgument
        ("expected a boolean, got '" ++ Text.asciiLowercase (Text.trim value) ++ "'")) := by
  have notTrue := mt List.contains_iff_mem.mp (noFlag true)
  have notFalse := mt List.contains_iff_mem.mp (noFlag false)
  unfold parseFlag
  exact (if_neg notTrue).trans (if_neg notFalse)

/-- What spells a count is read as that. -/
theorem parseLength_of_spells {value : String} {n : Nat} (spells : SpellsCount value n) :
    parseLength value = .ok n := by
  rw [parseLength, Text.count?_eq_some_iff.mpr spells]

/-- What spells no count is an error. -/
theorem parseLength_of_not_spells {value : String} (noCount : ∀ n, ¬ SpellsCount value n) :
    parseLength value =
      .error (.invalidArgument
        ("min_token_length must be a non-negative integer, got '" ++ value ++ "'")) := by
  rw [parseLength, Option.eq_none_iff_forall_ne_some.mpr fun n count =>
    noCount n (Text.count?_eq_some_iff.mp count)]

/-! ### Variables -/

/-- The draft that the variables give: each one gives the field that is named after it, if it is set. -/
structure Variables (lookup : String → Option String) (d : Draft) : Prop where
  languages : Option.Rel ListsLanguages (lookup "SNOWCASCADE_STEMMER_LANGUAGES") d.languages
  removeDiacritics : Option.Rel SpellsFlag (lookup "SNOWCASCADE_STEMMER_REMOVE_DIACRITICS") d.removeDiacritics
  tokenCharacters : lookup "SNOWCASCADE_STEMMER_TOKEN_CHARACTERS" = d.tokenCharacters
  separators : lookup "SNOWCASCADE_STEMMER_SEPARATORS" = d.separators
  minTokenLength : Option.Rel SpellsCount (lookup "SNOWCASCADE_STEMMER_MIN_TOKEN_LENGTH") d.minTokenLength

/-- Some variable is set to what it cannot mean, which is an error. -/
inductive Malformed (lookup : String → Option String) : Error → Prop
  | removeDiacritics {value : String} (isSet : lookup "SNOWCASCADE_STEMMER_REMOVE_DIACRITICS" = some value)
      (noFlag : ∀ flag, ¬ SpellsFlag value flag) :
      Malformed lookup
        (.invalidArgument ("expected a boolean, got '" ++ Text.asciiLowercase (Text.trim value) ++ "'"))
  | minTokenLength {value : String} (isSet : lookup "SNOWCASCADE_STEMMER_MIN_TOKEN_LENGTH" = some value)
      (noCount : ∀ n, ¬ SpellsCount value n) :
      Malformed lookup
        (.invalidArgument ("min_token_length must be a non-negative integer, got '" ++ value ++ "'"))

/-- Variables that give a draft are acceptable. -/
theorem Variables.not_malformed {lookup : String → Option String} {d : Draft} (sets : Variables lookup d)
    (e : Error) : ¬ Malformed lookup e := by
  rintro (⟨isSet, noFlag⟩ | ⟨isSet, noCount⟩)
  · have spelled := sets.removeDiacritics
    rw [isSet] at spelled
    generalize d.removeDiacritics = given at spelled
    cases spelled with
    | some spells => exact noFlag _ spells
  · have spelled := sets.minTokenLength
    rw [isSet] at spelled
    generalize d.minTokenLength = given at spelled
    cases spelled with
    | some spells => exact noCount _ spells

/-- A variable that is not set gives nothing. One that is set gives what its value means, if it means
anything. -/
private theorem exists_rel_or {α : Type} (R : String → α → Prop) (value : Option String) :
    (∃ given, Option.Rel R value given) ∨ ∃ text, value = some text ∧ ∀ a, ¬ R text a := by
  cases value with
  | none => exact .inl ⟨none, .none⟩
  | some text =>
    by_cases means : ∃ a, R text a
    · obtain ⟨a, means⟩ := means
      exact .inl ⟨some a, .some means⟩
    · exact .inr ⟨text, rfl, not_exists.mp means⟩

/-! ### Runs over the variables -/

/-- The rule of a variable puts what the value means into one field. -/
structure Assigns {α : Type} (R : String → α → Prop) (get : Settings → α) (put : Settings → α → Settings)
    (rule : Settings → String → Except Error Settings) : Prop where
  same : ∀ s, put s (get s) = s
  accepts : ∀ {value a}, R value a → ∀ s, rule s value = .ok (put s a)

section Steps

variable {α : Type} {R : String → α → Prop} {get : Settings → α} {put : Settings → α → Settings}
  {rule : Settings → String → Except Error Settings} {lookup : String → Option String}
  {name variableName : String}
  (named : variablePrefix ++ name = variableName) {s : Settings}
  {rest : List (String × (Settings → String → Except Error Settings))}

include named

/-- One step where the variable is not set or its value is acceptable: its field is replaced if it is set. -/
private theorem Assigns.applyFrom_cons (assigns : Assigns R get put rule) {given : Option α}
    (gives : Option.Rel R (lookup variableName) given) :
    applyFrom lookup ((name, rule) :: rest) s = applyFrom lookup rest (put s (given.getD (get s))) := by
  rw [applyFrom, named]
  generalize lookup variableName = value at gives
  cases gives with
  | none => rw [Option.getD_none, assigns.same]
  | some means =>
    dsimp only
    rw [assigns.accepts means, Option.getD_some]

/-- One step where the value is not acceptable: the later variables are not taken. -/
private theorem applyFrom_cons_of_error {value : String} (isSet : lookup variableName = some value)
    {e : Error} (refuses : rule s value = .error e) :
    applyFrom lookup ((name, rule) :: rest) s = (.error e, s) := by
  rw [applyFrom, named, isSet]
  dsimp only
  rw [refuses]

end Steps

section Run

variable {lookup : String → Option String} {s : Settings}

private theorem assigns_languages :
    Assigns ListsLanguages Settings.languages (fun s languages => { s with languages })
      fun s value => .ok { s with languages := listedLanguages value } where
  same _ := rfl
  accepts lists s := by rw [listsLanguages_iff.mp lists]

private theorem assigns_removeDiacritics :
    Assigns SpellsFlag Settings.removeDiacritics (fun s removeDiacritics => { s with removeDiacritics })
      fun s value => (parseFlag value).map fun flag => { s with removeDiacritics := flag } where
  same _ := rfl
  accepts spells s := by rw [parseFlag_of_spells spells]; rfl

private theorem assigns_tokenCharacters :
    Assigns Eq Settings.tokenCharacters (fun s tokenCharacters => { s with tokenCharacters })
      fun s value => .ok { s with tokenCharacters := value } where
  same _ := rfl
  accepts same s := by rw [same]

private theorem assigns_separators :
    Assigns Eq Settings.separators (fun s separators => { s with separators })
      fun s value => .ok { s with separators := value } where
  same _ := rfl
  accepts same s := by rw [same]

private theorem assigns_minTokenLength :
    Assigns SpellsCount Settings.minTokenLength (fun s minTokenLength => { s with minTokenLength })
      fun s value => (parseLength value).map fun n => { s with minTokenLength := n } where
  same _ := rfl
  accepts spells s := by rw [parseLength_of_spells spells]; rfl

private theorem rel_eq {α : Type} (value : Option α) : Option.Rel Eq value value := by
  cases value with
  | none => exact .none
  | some a => exact .some rfl

section Front

variable {languages : Option (List String)}
  (lists : Option.Rel ListsLanguages (lookup "SNOWCASCADE_STEMMER_LANGUAGES") languages)

include lists

/-- The run up to the first variable that may be malformed. -/
private theorem applyEnvironment_eq_drop_one :
    s.applyEnvironment lookup = applyFrom lookup (variableRules.drop 1) (s.withDraft { languages }) :=
  assigns_languages.applyFrom_cons (by decide) lists

/-- The run up to the other variable that may be malformed. -/
private theorem applyEnvironment_eq_drop_four {removeDiacritics : Option Bool}
    (spells : Option.Rel SpellsFlag (lookup "SNOWCASCADE_STEMMER_REMOVE_DIACRITICS") removeDiacritics) :
    s.applyEnvironment lookup =
      applyFrom lookup (variableRules.drop 4)
        (s.withDraft
          { languages, removeDiacritics
            tokenCharacters := lookup "SNOWCASCADE_STEMMER_TOKEN_CHARACTERS"
            separators := lookup "SNOWCASCADE_STEMMER_SEPARATORS" }) := by
  have taken := rel_eq (lookup "SNOWCASCADE_STEMMER_TOKEN_CHARACTERS")
  have split := rel_eq (lookup "SNOWCASCADE_STEMMER_SEPARATORS")
  unfold applyEnvironment variableRules
  rw [assigns_languages.applyFrom_cons (by decide) lists,
    assigns_removeDiacritics.applyFrom_cons (by decide) spells,
    assigns_tokenCharacters.applyFrom_cons (by decide) taken,
    assigns_separators.applyFrom_cons (by decide) split]
  rfl

end Front

/-- Variables that give a draft lay it over the settings. -/
theorem Variables.applyEnvironment_eq {d : Draft} (sets : Variables lookup d) (s : Settings) :
    s.applyEnvironment lookup = (.ok (), s.withDraft d) := by
  rw [applyEnvironment_eq_drop_four sets.languages sets.removeDiacritics]
  rw [sets.tokenCharacters, sets.separators]
  exact assigns_minTokenLength.applyFrom_cons (by decide) sets.minTokenLength

/-- The variables give a draft, or one of them is malformed and that is the error, whatever the settings
are. -/
theorem variables_or_malformed (lookup : String → Option String) :
    (∃ d, Variables lookup d) ∨
      ∃ e, Malformed lookup e ∧ ∀ s : Settings, (s.applyEnvironment lookup).1 = .error e := by
  obtain ⟨languages, lists⟩ : ∃ languages,
      Option.Rel ListsLanguages (lookup "SNOWCASCADE_STEMMER_LANGUAGES") languages := by
    cases lookup "SNOWCASCADE_STEMMER_LANGUAGES" with
    | none => exact ⟨none, .none⟩
    | some value => exact ⟨some (listedLanguages value), .some (listsLanguages_iff.mpr rfl)⟩
  obtain ⟨flag, spells⟩ | ⟨value, isSet, noFlag⟩ :=
    exists_rel_or SpellsFlag (lookup "SNOWCASCADE_STEMMER_REMOVE_DIACRITICS")
  · obtain ⟨n, counts⟩ | ⟨value, isSet, noCount⟩ :=
      exists_rel_or SpellsCount (lookup "SNOWCASCADE_STEMMER_MIN_TOKEN_LENGTH")
    · exact .inl ⟨⟨languages, flag, _, _, n⟩, lists, spells, rfl, rfl, counts⟩
    · refine .inr ⟨_, .minTokenLength isSet noCount, fun s => ?_⟩
      rw [applyEnvironment_eq_drop_four lists spells]
      have refused := parseLength_of_not_spells noCount
      exact congrArg Prod.fst (applyFrom_cons_of_error (by decide) isSet (by rw [refused]; rfl))
  · refine .inr ⟨_, .removeDiacritics isSet noFlag, fun s => ?_⟩
    rw [applyEnvironment_eq_drop_one lists]
    have refused := parseFlag_of_not_spells noFlag
    exact congrArg Prod.fst (applyFrom_cons_of_error (by decide) isSet (by rw [refused]; rfl))

end Run

end TextAnalysis.Settings
