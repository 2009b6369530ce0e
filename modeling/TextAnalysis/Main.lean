import TextAnalysis.CommandLine.Commands

/-!
# The program

Carries out the invocation that the arguments of the process make. The files that it names are read
first and those that it changed are written last.
-/

namespace TextAnalysis.CommandLine

/-- The paths that a command names. -/
def Command.paths : Command → List String
  | tokenize request => request.config.toList ++ request.stopWords.toList
  | stemmers => []
  | compress input output => [input, output]
  | uncompress input output => [input, output]
  | isCompressed input => [input]

/-- The variables of the environment that have a meaning and are set. -/
def readEnvironment : IO (List (String × String)) :=
  (configVariable :: Settings.variableRules.map (Settings.variablePrefix ++ ·.1)).filterMapM
    fun name => return (← IO.getEnv name).map (name, ·)

/-- Whether there is a directory at a path. -/
def isDirectoryAt (path : String) : IO Bool := do
  try
    let place ← IO.FS.realPath path
    place.isDir
  catch _ => return false

/-- The files with what is found along a path. -/
def loadPath (files : Files) (path : String) : IO Files := do
  let names := Files.pathNames path
  let prefixes := (List.range names.length).map fun n => names.take (n + 1)
  prefixes.foldlM (fun files names => do
    let name := Files.joinNames names
    if ← isDirectoryAt (if name = "" then "/" else name) then
      return { files with directories := name :: files.directories }
    try
      let content ← IO.FS.readBinFile name
      return files.insert name content.data.toList
    catch _ => return files) files

/-- Write the files that differ from what they were. -/
def storeChanges (before after : Files) : IO Unit :=
  (after.entries.filter fun entry => before.find? entry.1 ≠ some entry.2).forM fun entry =>
    IO.FS.writeBinFile entry.1 ⟨entry.2.toArray⟩

/-- What is printed when help is asked for. -/
def helpText : String :=
  "Commands: " ++ ", ".intercalate mainUsage.commands ++ "\nOptions: " ++
    ", ".intercalate (mainUsage.options.map ("--" ++ ·.long))

/-- What is printed when the version is asked for. -/
def versionText : String := "0.1.0"

/-- Tell why a command line is not carried out. Help that is asked for is no failure. -/
def reportFault (fault : UsageFault) : IO UInt32 := do
  match fault with
  | .helpWanted =>
    IO.println helpText
    return 0
  | .versionWanted =>
    IO.println versionText
    return 0
  | _ =>
    IO.eprintln ("error: " ++ fault.kind)
    return 2

/-- Carry out an invocation. -/
def Invocation.carryOut (lookup : String → Option String) (i : Invocation) : IO UInt32 := do
  let before ← i.command.paths.foldlM loadPath {}
  let outcome := i.run lookup before
  match outcome.output with
  | .ok text =>
    storeChanges before outcome.files
    IO.print text
    return 0
  | .error e =>
    IO.eprintln ("Error: " ++ e.message)
    return 1

end TextAnalysis.CommandLine

open TextAnalysis.CommandLine in
/-- Carry out the words of the command line. -/
def main (words : List String) : IO UInt32 := do
  let environment ← readEnvironment
  let lookup := fun name => environment.lookup name
  match Invocation.parse lookup words with
  | .error fault => reportFault fault
  | .ok i => i.carryOut lookup
