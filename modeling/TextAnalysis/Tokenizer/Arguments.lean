import TextAnalysis.Error

/-!
# Arguments of tokenizers

A tokenizer is constructed from arguments that come in pairs of a key and a value. A value may stand
between quotes.
-/

namespace TextAnalysis

/-- The characters between two equal quotes, or all of them. -/
def stripQuotes : List Char → List Char
  | c :: d :: cs =>
    if (c = '"' ∨ c = '\x27') ∧ (d :: cs).getLast? = some c then (d :: cs).dropLast else c :: d :: cs
  | cs => cs

/-- The value of an argument without one pair of equal quotes around it. -/
def unquoted (value : String) : String := String.ofList (stripQuotes value.toList)

/-- The value of an argument between single quotes. -/
def singleQuoted (value : String) : String := "\x27" ++ value ++ "\x27"

/-- Take the arguments of the named tokenizer pair by pair; `step` takes one key with its value. -/
def foldArguments {α : Type} (tokenizer : String) (step : α → String → String → Except Error α) :
    α → List String → Except Error α
  | a, [] => .ok a
  | _, [key] =>
    .error (.configuration ("missing value for " ++ tokenizer ++ " argument '" ++ key ++ "'"))
  | a, key :: value :: rest =>
    match step a key value with
    | .error e => .error e
    | .ok a => foldArguments tokenizer step a rest

/-- The error of a key that the named tokenizer does not know. -/
def unknownArgument (tokenizer key : String) : Error :=
  .configuration ("unknown " ++ tokenizer ++ " argument '" ++ key ++ "'")

end TextAnalysis
