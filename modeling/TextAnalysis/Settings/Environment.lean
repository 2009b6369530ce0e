import TextAnalysis.Settings.Arguments

/-!
# Settings from environment variables

Each setting can be given by an environment variable. The variables are taken in a fixed order, and
those before the first one that is not acceptable take effect.
-/

namespace TextAnalysis.Settings

/-- What the names of all variables begin with. -/
def variablePrefix : String := "SNOWCASCADE_STEMMER_"

/-- The pieces of a text between commas. -/
def commaPieces (s : String) : List String :=
  (s.toList.splitOn ',').map String.ofList

/-- The languages that a variable lists. Blanks around a name and empty names do not count. -/
def listedLanguages (value : String) : List String :=
  ((commaPieces value).map Text.trim).filter (· ≠ "")

/-- The truth value that a text spells, blanks around it and ASCII capitals apart. -/
def parseFlag (value : String) : Except Error Bool :=
  let word := Text.asciiLowercase (Text.trim value)
  if ["1", "true", "yes", "on"].contains word then .ok true
  else if ["0", "false", "no", "off"].contains word then .ok false
  else .error (.invalidArgument ("expected a boolean, got '" ++ word ++ "'"))

/-- The variables in the order in which they are taken, with what each of them sets. -/
def variableRules : List (String × (Settings → String → Except Error Settings)) :=
  [("LANGUAGES", fun s value => .ok { s with languages := listedLanguages value }),
   ("REMOVE_DIACRITICS", fun s value =>
     (parseFlag value).map fun flag => { s with removeDiacritics := flag }),
   ("TOKEN_CHARACTERS", fun s value => .ok { s with tokenCharacters := value }),
   ("SEPARATORS", fun s value => .ok { s with separators := value }),
   ("MIN_TOKEN_LENGTH", fun s value =>
     (parseLength value).map fun n => { s with minTokenLength := n })]

/-- The settings after the given variables, whose values `lookup` tells. -/
def applyFrom (lookup : String → Option String) :
    List (String × (Settings → String → Except Error Settings)) → Settings →
      Except Error Unit × Settings
  | [], s => (.ok (), s)
  | (name, set) :: rest, s =>
    match lookup (variablePrefix ++ name) with
    | none => applyFrom lookup rest s
    | some value =>
      match set s value with
      | .ok s => applyFrom lookup rest s
      | .error e => (.error e, s)

/-- The settings after the environment, in which `lookup` tells the value of a variable. -/
def applyEnvironment (s : Settings) (lookup : String → Option String) :
    Except Error Unit × Settings :=
  applyFrom lookup variableRules s

end TextAnalysis.Settings
