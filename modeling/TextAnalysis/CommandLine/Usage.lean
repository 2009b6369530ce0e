import TextAnalysis.Text.Numeral

/-!
# Usage of a command line

The arguments that a command takes, and how a list of words is matched against them. Words are taken
from left to right. An option that waits for its value is settled when the next argument begins, so
that of several faults in a command line the first one to be settled is reported.
-/

namespace TextAnalysis.CommandLine

/-- Why a command line is not carried out. Asking for help counts as a reason. -/
inductive UsageFault where
  | unknownArgument
  | missingArgument
  | missingCommand
  | unknownCommand
  | repeatedArgument
  | unneededValue
  | unacceptableValue
  | invalidNumber
  | helpWanted
  | helpNeeded
  | versionWanted
deriving Repr, DecidableEq

/-- The kind of a fault, by name. -/
def UsageFault.kind : UsageFault → String
  | unknownArgument => "UnknownArgument"
  | missingArgument => "MissingRequiredArgument"
  | missingCommand => "MissingSubcommand"
  | unknownCommand => "InvalidSubcommand"
  | repeatedArgument => "ArgumentConflict"
  | unneededValue => "TooManyValues"
  | unacceptableValue => "InvalidValue"
  | invalidNumber => "ValueValidation"
  | helpWanted => "DisplayHelp"
  | helpNeeded => "DisplayHelpOnMissingArgumentOrSubcommand"
  | versionWanted => "DisplayVersion"

/-- The arguments of all commands. -/
inductive Argument where
  | help
  | version
  | verbose
  | quiet
  | format
  | pretty
  | text
  | query
  | partialTerm
  | languages
  | minTokenLength
  | stopWords
  | config
  | inner
  | input
  | output
deriving Repr, DecidableEq

/-- The values that an argument takes. -/
inductive ValueKind where
  /-- Any text. -/
  | anyText
  /-- A path, which is not empty. -/
  | path
  /-- A count. -/
  | count
  /-- One of some names. -/
  | oneOf (names : List String)
deriving Repr, DecidableEq

/-- What is wrong with a value, if anything. -/
def ValueKind.fault? (kind : ValueKind) (value : String) : Option UsageFault :=
  match kind with
  | anyText => none
  | path => if value = "" then some .unacceptableValue else none
  | count => if (Text.count? value).isSome then none else some .invalidNumber
  | oneOf names => if names.contains value then none else some .unacceptableValue

/-- What happens when an argument is given. -/
inductive Effect where
  /-- The command line is not carried out. -/
  | refuse (fault : UsageFault)
  /-- A switch, to be given at most once. -/
  | switch
  /-- A switch that counts how often it is given. -/
  | counter
  /-- A value, to be given at most once. -/
  | single (kind : ValueKind)
  /-- Values between commas, given any number of times. -/
  | many
deriving Repr, DecidableEq

/-- Whether an argument takes a value. -/
def Effect.takesValue : Effect → Bool
  | single _ => true
  | many => true
  | _ => false

/-- An option: an argument that is given by name. -/
structure OptionRule where
  argument : Argument
  long : String
  short : Option Char := none
  effect : Effect
deriving Repr, DecidableEq

/-- The arguments of a command: its options, its arguments by position, all of which must be given, and
the names of its subcommands. -/
structure Usage where
  options : List OptionRule
  positions : List (Argument × ValueKind) := []
  commands : List String := []

/-- The arguments that have been given, each with its values. A switch has an empty value for each
time. -/
abbrev Given := List (Argument × List String)

/-- The values of an argument. -/
def valuesOf (given : Given) (argument : Argument) : List String :=
  (given.lookup argument).getD []

/-- Whether an argument has been given. -/
def isGiven (given : Given) (argument : Argument) : Bool := (given.lookup argument).isSome

/-- An argument that has been begun, with its value if it has come. -/
structure Pending where
  argument : Argument
  effect : Effect
  value : Option String
deriving Repr, DecidableEq

/-- The state between two words. -/
structure Progress where
  given : Given := []
  pending : Option Pending := none
  /-- Whether the pending argument waits for its value. -/
  awaiting : Bool := false
  /-- Whether only arguments by position can follow. -/
  trailing : Bool := false
  /-- The arguments by position that have not come. -/
  positions : List (Argument × ValueKind)
deriving Repr, DecidableEq

/-- The pieces of a value between commas. -/
def valuePieces (value : String) : List String := (value.toList.splitOn ',').map String.ofList

/-- What is given once an argument has been given another time. -/
def take (given : Given) (argument : Argument) (effect : Effect) (value : String) :
    Except UsageFault Given :=
  match effect with
  | .refuse fault => .error fault
  | .switch =>
    if isGiven given argument then .error .repeatedArgument else .ok ((argument, [""]) :: given)
  | .counter => .ok ((argument, "" :: valuesOf given argument) :: given)
  | .single kind =>
    if isGiven given argument then .error .repeatedArgument
    else
      match kind.fault? value with
      | some fault => .error fault
      | none => .ok ((argument, [value]) :: given)
  | .many => .ok ((argument, valuesOf given argument ++ valuePieces value) :: given)

namespace Progress

/-- Settle the pending argument. -/
def settle (p : Progress) : Except UsageFault Progress :=
  match p.pending with
  | none => .ok p
  | some pending =>
    match pending.value with
    | none => .error .unacceptableValue
    | some value =>
      match take p.given pending.argument pending.effect value with
      | .ok given => .ok { p with given, pending := none }
      | .error fault => .error fault

/-- Take an argument with its value at once. -/
def takeNow (p : Progress) (argument : Argument) (effect : Effect) (value : String) :
    Except UsageFault Progress :=
  match p.settle with
  | .error fault => .error fault
  | .ok p =>
    match take p.given argument effect value with
    | .ok given => .ok { p with given, awaiting := false }
    | .error fault => .error fault

/-- Take an option, with its value if that is attached to the name. -/
def takeOption (p : Progress) (rule : OptionRule) (attached : Option String) :
    Except UsageFault Progress :=
  match attached with
  | some value => p.takeNow rule.argument rule.effect value
  | none =>
    match p.settle with
    | .error fault => .error fault
    | .ok p => .ok { p with pending := some ⟨rule.argument, rule.effect, none⟩, awaiting := true }

/-- Take an option given by its long name. -/
def takeLong (p : Progress) (usage : Usage) (name : String) (attached : Option String) :
    Except UsageFault Progress :=
  match usage.options.find? fun rule => rule.long = name with
  | none => .error .unknownArgument
  | some rule =>
    if rule.effect.takesValue then p.takeOption rule attached
    else if attached.isSome then .error .unneededValue
    else p.takeNow rule.argument rule.effect ""

/-- The value that is attached to a letter, which may follow an equals sign. -/
def attachedValue : List Char → Option String
  | [] => none
  | '=' :: cs => some (String.ofList cs)
  | cs => some (String.ofList cs)

/-- Take options given by their letters. -/
def takeLetters (p : Progress) (usage : Usage) : List Char → Except UsageFault Progress
  | [] => .ok p
  | c :: cs =>
    match usage.options.find? fun rule => rule.short = some c with
    | none => .error .unknownArgument
    | some rule =>
      if rule.effect.takesValue then p.takeOption rule (attachedValue cs)
      else
        match p.takeNow rule.argument rule.effect "" with
        | .ok p => takeLetters p usage cs
        | .error fault => .error fault

/-- Take a word by its position. -/
def takePosition (p : Progress) (usage : Usage) (word : String) : Except UsageFault Progress :=
  match p.positions with
  | (argument, kind) :: positions =>
    match p.settle with
    | .error fault => .error fault
    | .ok p =>
      .ok { p with positions, pending := some ⟨argument, .single kind, some word⟩, awaiting := false }
  | [] =>
    if usage.commands = [] ∨ (p.trailing ∧ usage.commands.contains word) then
      .error .unknownArgument
    else .error .unknownCommand

/-- Take the value that the pending argument waits for. -/
def takeAwaited (p : Progress) (word : String) : Progress :=
  { p with
    pending := p.pending.map fun pending => { pending with value := some word }
    awaiting := false }

/-- Take a word that names no subcommand. -/
def takeWord (p : Progress) (usage : Usage) (word : String) : Except UsageFault Progress :=
  if p.trailing then p.takePosition usage word
  else
    match word.toList with
    | ['-', '-'] => .ok { p with trailing := true }
    | '-' :: '-' :: cs =>
      let value := cs.dropWhile (· ≠ '=')
      p.takeLong usage (String.ofList (cs.takeWhile (· ≠ '=')))
        (if value = [] then none else some (String.ofList value.tail))
    | '-' :: c :: cs => p.takeLetters usage (c :: cs)
    | _ => if p.awaiting then .ok (p.takeAwaited word) else p.takePosition usage word

end Progress

/-- Take words up to the name of a subcommand. The result has that name, if there is one, and the words
after it. -/
def takeWords (usage : Usage) : Progress → List String →
    Except UsageFault (Progress × Option (String × List String))
  | p, [] => .ok (p, none)
  | p, word :: words =>
    if !p.trailing && !p.awaiting && usage.commands.contains word then .ok (p, some (word, words))
    else
      match p.takeWord usage word with
      | .ok p => takeWords usage p words
      | .error fault => .error fault

end TextAnalysis.CommandLine
