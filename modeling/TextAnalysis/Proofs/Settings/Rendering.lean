import TextAnalysis.Proofs.Settings.Languages

/-!
# Settings as construction arguments

Settings can be written as arguments: their languages as they are spelled, what they tell a wrapped tokenizer,
and the least length of a token. Read again, the arguments ask for what the settings say. Characters of which
there are none are not asked for, so that those of the settings that were there before stay.
-/

namespace TextAnalysis

/-! ### Texts without quotes -/

/-- The digits of a number stand between no quotes. -/
theorem unquotes_decimal (n : Nat) : Unquotes (Text.decimal n) (Text.decimal n) := by
  refine .bare fun quote inner isQuote eq => ?_
  rw [Text.decimal, String.toList_ofList] at eq
  have digit : quote.isDigit = true := Text.isDigit_of_mem_toDigits (by rw [eq]; exact .head _)
  obtain rfl | rfl := isQuote
  · exact absurd digit (by decide)
  · exact absurd digit (by decide)

namespace Language

private theorem head?_identifiers :
    ∀ l ∈ all, ∀ word ∈ l.identifiers, word.toList.head? ≠ some '"' ∧ word.toList.head? ≠ some '\x27' := by
  decide +kernel

private theorem not_identifies_key (key : Settings.Key) : ofIdentifier? key.name = none := by
  cases key <;> decide +kernel

/-- A word that identifies a language stands between no quotes. -/
theorem unquotes_of_ofIdentifier? {word : String} {l : Language} (identified : ofIdentifier? word = some l) :
    Unquotes word word := by
  refine .bare fun quote inner isQuote eq => ?_
  have notBlank : Text.isBlank quote = false := by
    obtain rfl | rfl := isQuote <;> decide
  have trimmed : Text.trim word = word := by
    apply Text.trim_eq_self
    · intro c head
      rw [eq, List.head?_cons] at head
      rwa [← Option.some.inj head]
    · intro c last
      rw [eq, ← List.cons_append, List.getLast?_concat] at last
      rwa [← Option.some.inj last]
  have identifies := ofIdentifier?_eq_some_iff.mp identified
  obtain ⟨double, single⟩ := head?_identifiers l (mem_all l) _ identifies
  rw [trimmed, Text.asciiLowercase, String.toList_ofList, eq, List.map_cons, List.head?_cons] at double single
  obtain rfl | rfl := isQuote
  · exact double rfl
  · exact single rfl

end Language

namespace Settings

/-! ### Arguments and what they ask for -/

/-- The arguments ask for these things, one after another. -/
def Asks (arguments : List String) (requests : List Request) : Prop :=
  List.Forall₂ Means (unitsOf arguments) requests

namespace Asks

variable {rest : List String} {requests : List Request}

private theorem of_splits {arguments : List String} {units : List ArgumentUnit}
    (splits : Splits arguments units) (means : List.Forall₂ Means units requests) :
    Asks arguments requests := by
  rwa [Asks, ← splits_iff.mp splits]

private theorem splits_unitsOf (rest : List String) : Splits rest (unitsOf rest) := splits_iff.mpr rfl

/-- A key and its value ask for what they mean. -/
theorem assign (key : Key) {value inner : String} {request : Request} (unquotes : Unquotes value inner)
    (means : Means (.assign key inner) request) (more : Asks rest requests) :
    Asks (key.name :: value :: rest) (request :: requests) :=
  of_splits (.assign key unquotes (splits_unitsOf rest)) (.cons means more)

/-- A word that identifies a language asks for it. -/
theorem language {word : String} {l : Language} (identified : Language.ofIdentifier? word = some l)
    (more : Asks rest requests) : Asks (word :: rest) (.language l :: requests) := by
  have noKey : ∀ key : Key, word ≠ key.name := by
    rintro key rfl
    rw [Language.not_identifies_key] at identified
    cases identified
  have means := Means.language (Language.ofIdentifier?_eq_some_iff.mp identified)
  exact of_splits (.language noKey (Language.unquotes_of_ofIdentifier? identified) (splits_unitsOf rest))
    (.cons means more)

/-- Words that identify languages ask for these. -/
theorem languages {words : List String} {languages : List Language}
    (parsed : words.mapM Language.parse = .ok languages) (more : Asks rest requests) :
    Asks (words ++ rest) (languages.map .language ++ requests) := by
  induction words generalizing languages with
  | nil =>
    obtain rfl := Except.ok.inj parsed
    exact more
  | cons word words ih =>
    obtain ⟨l, others, first, parsedOthers, rfl⟩ := Language.mapM_parse_cons_eq_ok_iff.mp parsed
    exact .language (Language.parse_eq_ok_iff.mp first) (ih parsedOthers)

/-- Characters are asked for if there are some. -/
theorem characters {key : Key} {ask : String → Request} (means : ∀ value, Means (.assign key value) (ask value))
    (characters : String) (more : Asks rest requests) :
    Asks ((if characters = "" then [] else [key.name, singleQuoted characters]) ++ rest)
      ((if characters = "" then [] else [ask characters]) ++ requests) := by
  split
  · exact more
  · exact .assign key (unquotes_iff.mpr (unquoted_singleQuoted characters)) (means characters) more

end Asks

/-- What settings with these languages ask for. -/
def requests (s : Settings) (languages : List Language) : List Request :=
  languages.map .language ++ [.removeDiacritics s.removeDiacritics] ++
    (if s.tokenCharacters = "" then [] else [.tokenCharacters s.tokenCharacters]) ++
    (if s.separators = "" then [] else [.separators s.separators]) ++ [.minTokenLength s.minTokenLength]

/-- Settings that are written as arguments ask for what they say. -/
theorem asks_requests {s : Settings} {languages : List Language} (known : s.resolve = .ok languages)
    (fits : s.minTokenLength < Text.countLimit) :
    Asks (s.languages ++ s.wordArguments ++ ["min_token_length", Text.decimal s.minTokenLength])
      (s.requests languages) := by
  have length : Asks ["min_token_length", Text.decimal s.minTokenLength] [.minTokenLength s.minTokenLength] :=
    .assign .minTokenLength (unquotes_decimal s.minTokenLength)
      (.minTokenLength (Text.isCountNumeral_trim_decimal fits)) .nil
  have diacritics : ∃ inner, Unquotes s.diacritics.argument inner ∧
      Means (.assign .removeDiacritics inner) (.removeDiacritics s.removeDiacritics) := by
    rw [Settings.diacritics]
    cases s.removeDiacritics with
    | false => exact ⟨"0", unquotes_iff.mpr (by decide), .keepDiacritics⟩
    | true => exact ⟨"1", unquotes_iff.mpr (by decide), .removeDiacritics⟩
  obtain ⟨inner, unquotes, means⟩ := diacritics
  simp only [requests, wordArguments, overrideArguments, List.append_assoc, List.cons_append,
    List.nil_append]
  exact .languages (resolve_eq_ok_iff.mp known).2 (.assign .removeDiacritics unquotes means
    (.characters .tokenCharacters _ (.characters .separators _ length)))

/-! ### What is granted -/

/-- Things may be granted in two parts if the second part names no languages. -/
theorem granting_append (s : Settings) {front back : List Request} (unnamed : requestedLanguages back = []) :
    s.granting (front ++ back) = (s.granting front).granting back := by
  have same : requestedLanguages (front ++ back) = requestedLanguages front := by
    rw [requestedLanguages, List.filterMap_append, List.map_append]
    exact (congrArg _ unnamed).trans (List.append_nil _)
  simp only [granting, same, unnamed, if_true, last_append]

/-- Granting languages puts their names in the place of those before. -/
theorem granting_languages (s : Settings) {languages : List Language} (named : languages ≠ []) :
    s.granting (languages.map .language) = { s with languages := languages.map Language.name } := by
  have all : languages.filterMap (Request.language? ∘ Request.language) = languages := List.filterMap_some
  have none {α : Type} (field : Request → Option α) (other : ∀ l, field (.language l) = none) :
      (languages.map Request.language).filterMap field = [] := by
    rw [List.filterMap_map]
    exact List.filterMap_eq_nil_iff.mpr fun l _ => other l
  have names : requestedLanguages (languages.map .language) = languages.map Language.name := by
    rw [requestedLanguages, List.filterMap_map, all]
  rw [granting, names, if_neg (List.map_eq_nil_iff.not.mpr named), none _ fun _ => rfl,
    none _ fun _ => rfl, none _ fun _ => rfl, none _ fun _ => rfl]
  rfl

/-- Granting what settings ask for makes any settings these, but for characters that they do not have. -/
theorem granting_requests (s base : Settings) {languages : List Language} (named : languages ≠ []) :
    base.granting (s.requests languages) =
      { s with
        languages := languages.map Language.name
        tokenCharacters := if s.tokenCharacters = "" then base.tokenCharacters else s.tokenCharacters
        separators := if s.separators = "" then base.separators else s.separators } := by
  have tokenChars : requestedLanguages
      (if s.tokenCharacters = "" then [] else [.tokenCharacters s.tokenCharacters]) = [] := by
    split <;> rfl
  have separators : requestedLanguages
      (if s.separators = "" then [] else [.separators s.separators]) = [] := by
    split <;> rfl
  rw [requests, granting_append _ rfl, granting_append _ separators, granting_append _ tokenChars,
    granting_append _ rfl, granting_languages base named]
  split
  · split <;> rfl
  · split <;> rfl

/-- Settings that are known and that fit in 64 bits can be written as arguments and read again. Taken by any
settings without characters to take in or to split at, the languages as they are spelled, the arguments for a
wrapped tokenizer and the least length of a token are accepted, and make them those settings, with each language
by its name. -/
theorem applyArguments_rendered {s base : Settings} {languages : List Language}
    (known : s.resolve = .ok languages) (fits : s.minTokenLength < Text.countLimit)
    (noTokenChars : base.tokenCharacters = "") (noSeparators : base.separators = "") :
    base.applyArguments
        (s.languages ++ s.wordArguments ++ ["min_token_length", Text.decimal s.minTokenLength]) =
      (.ok (), { s with languages := languages.map Language.name }) := by
  obtain ⟨named, parsed⟩ := resolve_eq_ok_iff.mp known
  refine applyArguments_eq_ok_iff.mpr ⟨s.requests languages, asks_requests known fits, ?_⟩
  have keep (characters : String) : (if characters = "" then "" else characters) = characters := by
    split
    · next none => exact none.symm
    · rfl
  rw [granting_requests s base (Language.ne_nil_of_mapM_parse parsed named), noTokenChars, noSeparators,
    keep, keep]

/-- Quotes, the name of a key, codes with blanks around them and the greatest count come back. -/
theorem applyArguments_rendered_with_quotes :
    let s : Settings :=
      { languages := [" FRA ", "en"], removeDiacritics := false, tokenCharacters := "'\"'",
        separators := "separators", minTokenLength := 18446744073709551615 }
    let base : Settings := { languages := [], minTokenLength := 7 }
    let arguments : List String :=
      [" FRA ", "en", "remove_diacritics", "0", "tokenchars", "''\"''", "separators", "'separators'",
        "min_token_length", "18446744073709551615"]
    s.resolve = .ok [.french, .english] ∧ s.minTokenLength < Text.countLimit ∧ base.tokenCharacters = "" ∧
      base.separators = "" ∧
      s.languages ++ s.wordArguments ++ ["min_token_length", Text.decimal s.minTokenLength] = arguments ∧
      base.applyArguments arguments = (.ok (), { s with languages := ["french", "english"] }) := by
  intro s base arguments
  have known : s.resolve = .ok [.french, .english] := by rfl
  have fits : s.minTokenLength < Text.countLimit := by decide
  have written : s.languages ++ s.wordArguments ++ ["min_token_length", Text.decimal s.minTokenLength] =
      arguments := by decide +kernel
  refine ⟨known, fits, rfl, rfl, written, ?_⟩
  rw [← written]
  exact applyArguments_rendered known fits rfl rfl

end Settings

end TextAnalysis
