import TextAnalysis.Settings.Basic
import TextAnalysis.Text.Numeral

/-!
# Settings from construction arguments

Arguments are read from left to right as units: a key takes the next argument as its value, and any
other argument names a language. If languages are named they replace those of the settings. The units
before the first one that is not acceptable take effect, but for the languages.
-/

namespace TextAnalysis.Settings

/-- The keys that take a value. -/
inductive Key where
  | removeDiacritics
  | tokenChars
  | separators
  | minTokenLength
deriving Repr, DecidableEq

/-- The name of a key. -/
def Key.name : Key → String
  | removeDiacritics => "remove_diacritics"
  | tokenChars => "tokenchars"
  | separators => "separators"
  | minTokenLength => "min_token_length"

/-- The key that an argument is. -/
def Key.ofName? (s : String) : Option Key :=
  [removeDiacritics, tokenChars, separators, minTokenLength].find? fun k => k.name = s

/-- A unit of arguments: a key with its value, the name of a language, or a key without a value. -/
inductive ArgumentUnit where
  | assign (key : Key) (value : String)
  | language (word : String)
  | dangling (key : Key)
deriving Repr, DecidableEq

/-- The units of an argument list. Values and names may stand between quotes. -/
def unitsOf : List String → List ArgumentUnit
  | [] => []
  | [argument] =>
    match Key.ofName? argument with
    | some key => [.dangling key]
    | none => [.language (unquoted argument)]
  | argument :: value :: rest =>
    match Key.ofName? argument with
    | some key => .assign key (unquoted value) :: unitsOf rest
    | none => .language (unquoted argument) :: unitsOf (value :: rest)

/-- The length that a text gives, blanks around it apart. -/
def parseLength (value : String) : Except Error Nat :=
  match Text.count? (Text.trim value) with
  | some n => .ok n
  | none =>
    .error (.invalidArgument
      ("min_token_length must be a non-negative integer, got '" ++ value ++ "'"))

/-- The settings with a value for one key. -/
def assign (s : Settings) (key : Key) (value : String) : Except Error Settings :=
  match key with
  | .removeDiacritics =>
    if value = "0" then .ok { s with removeDiacritics := false }
    else if value = "1" then .ok { s with removeDiacritics := true }
    else .error (.configuration ("remove_diacritics must be 0 or 1, got '" ++ value ++ "'"))
  | .tokenChars => .ok { s with tokenCharacters := value }
  | .separators => .ok { s with separators := value }
  | .minTokenLength =>
    match parseLength value with
    | .ok n => .ok { s with minTokenLength := n }
    | .error e => .error e

/-- The settings after the given units, where `named` are the languages named before. The languages
take their place after the last unit. -/
def applyUnits (s : Settings) (named : List String) :
    List ArgumentUnit → Except Error Unit × Settings
  | [] => (.ok (), if named = [] then s else { s with languages := named })
  | .assign key value :: units =>
    match s.assign key value with
    | .ok s => applyUnits s named units
    | .error e => (.error e, s)
  | .language word :: units =>
    match Language.parse word with
    | .ok language => applyUnits s (named ++ [language.name]) units
    | .error e => (.error e, s)
  | .dangling key :: _ =>
    (.error (.configuration ("missing value for argument '" ++ key.name ++ "'")), s)

/-- The settings after the given arguments. -/
def applyArguments (s : Settings) (arguments : List String) : Except Error Unit × Settings :=
  s.applyUnits [] (unitsOf arguments)

end TextAnalysis.Settings
