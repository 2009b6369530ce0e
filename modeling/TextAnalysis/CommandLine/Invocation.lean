import TextAnalysis.CommandLine.Usage
import TextAnalysis.Tokenizer.Factory

/-!
# Invocations

The commands of the program and what a command line asks of them.
-/

namespace TextAnalysis.CommandLine

/-- The two forms of output. -/
inductive OutputFormat where
  | human
  | json
deriving Repr, DecidableEq

/-- What is to be tokenized, and how. -/
structure TokenizeRequest where
  text : String
  query : Bool := false
  partialTerm : Bool := false
  languages : List String := []
  minTokenLength : Option Nat := none
  stopWords : Option String := none
  config : Option String := none
  inner : String := Factory.defaultInner
deriving Repr, DecidableEq

/-- The commands: tokenize a text, list the languages, write a blob from a file, restore a file from a
blob, tell whether a file is a blob. -/
inductive Command where
  | tokenize (request : TokenizeRequest)
  | stemmers
  | compress (input output : String)
  | uncompress (input output : String)
  | isCompressed (input : String)
deriving Repr, DecidableEq

/-- A command with the form of its output. -/
structure Invocation where
  verbose : Nat := 0
  quiet : Bool := false
  format : OutputFormat := .human
  pretty : Bool := false
  command : Command
deriving Repr, DecidableEq

/-- How much is told: nothing beyond the result when quiet, and one level is usual. -/
def Invocation.verbosity (i : Invocation) : Nat :=
  if i.quiet then 0 else max 1 i.verbose

/-- The environment variable that names the settings file. -/
def configVariable : String := "SNOWCASCADE_CONFIG"

/-- The option that asks for help. -/
def helpOption : OptionRule := ⟨.help, "help", some 'h', .refuse .helpWanted⟩

/-- The subcommand that asks for help. -/
def helpCommand : String := "help"

/-- The arguments of each subcommand. -/
def subcommands : List (String × Usage) :=
  [("tokenize",
    { options :=
        [helpOption, ⟨.query, "query", none, .switch⟩, ⟨.partialTerm, "prefix", none, .switch⟩,
         ⟨.languages, "languages", some 'l', .many⟩,
         ⟨.minTokenLength, "min-token-length", none, .single .count⟩,
         ⟨.stopWords, "stop-words", none, .single .path⟩,
         ⟨.config, "config", some 'c', .single .path⟩,
         ⟨.inner, "delegate", none, .single .anyText⟩]
      positions := [(.text, .anyText)] }),
   ("stemmers", { options := [helpOption] }),
   ("compress", { options := [helpOption], positions := [(.input, .path), (.output, .path)] }),
   ("uncompress", { options := [helpOption], positions := [(.input, .path), (.output, .path)] }),
   ("is-compressed", { options := [helpOption], positions := [(.input, .path)] })]

/-- The arguments before a subcommand. -/
def mainUsage : Usage where
  options :=
    [helpOption, ⟨.version, "version", some 'V', .refuse .versionWanted⟩,
     ⟨.verbose, "verbose", some 'v', .counter⟩, ⟨.quiet, "quiet", some 'q', .switch⟩,
     ⟨.format, "format", some 'f', .single (.oneOf ["human", "json"])⟩,
     ⟨.pretty, "pretty", none, .switch⟩]
  commands := subcommands.map Prod.fst ++ [helpCommand]

/-- Why help is not given: the words after the help command name no subcommand. -/
def helpFault (words : List String) : UsageFault :=
  match words with
  | [] => .helpWanted
  | [word] => if mainUsage.commands.contains word then .helpWanted else .unknownCommand
  | _ => .unknownCommand

/-- The settings file from the environment, unless it is given. -/
def withConfigVariable (usage : Usage) (lookup : String → Option String) (given : Given) :
    Except UsageFault Given :=
  if isGiven given .config || !usage.options.any (·.argument = .config) then .ok given
  else
    match lookup configVariable with
    | none => .ok given
    | some path => take given .config (.single .path) path

/-- The arguments of a subcommand, of which all by position must be given. -/
def readArguments (usage : Usage) (lookup : String → Option String) (words : List String) :
    Except UsageFault Given := do
  let (p, _) ← takeWords usage { positions := usage.positions } words
  let p ← p.settle
  let given ← withConfigVariable usage lookup p.given
  if p.positions = [] then .ok given else .error .missingArgument

/-- The last value of an argument. -/
def value? (given : Given) (argument : Argument) : Option String := (valuesOf given argument).getLast?

/-- The value of an argument that must be given. -/
def valueOf (given : Given) (argument : Argument) : String := (value? given argument).getD ""

/-- The request that the arguments make. -/
def requestOf (given : Given) : TokenizeRequest where
  text := valueOf given .text
  query := isGiven given .query
  partialTerm := isGiven given .partialTerm
  languages := valuesOf given .languages
  minTokenLength := (value? given .minTokenLength).bind Text.count?
  stopWords := value? given .stopWords
  config := value? given .config
  inner := (value? given .inner).getD Factory.defaultInner

/-- The command of the given name with its arguments. -/
def commandOf (name : String) (given : Given) : Command :=
  if name = "tokenize" then .tokenize (requestOf given)
  else if name = "compress" then .compress (valueOf given .input) (valueOf given .output)
  else if name = "uncompress" then .uncompress (valueOf given .input) (valueOf given .output)
  else if name = "is-compressed" then .isCompressed (valueOf given .input)
  else .stemmers

/-- What the words of a command line ask for. `lookup` tells the value of an environment variable. -/
def Invocation.parse (lookup : String → Option String) (words : List String) :
    Except UsageFault Invocation := do
  let (p, command) ← takeWords mainUsage { positions := [] } words
  match command with
  | none =>
    let p ← p.settle
    .error (if p.given = [] then .helpNeeded else .missingCommand)
  | some (name, words) =>
    match subcommands.lookup name with
    | none => .error (helpFault words)
    | some usage =>
      let arguments ← readArguments usage lookup words
      let p ← p.settle
      .ok { verbose := (valuesOf p.given .verbose).length
            quiet := isGiven p.given .quiet
            format := if value? p.given .format = some "json" then .json else .human
            pretty := isGiven p.given .pretty
            command := commandOf name arguments }

end TextAnalysis.CommandLine
