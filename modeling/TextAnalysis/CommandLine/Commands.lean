import TextAnalysis.Blob.Basic
import TextAnalysis.CommandLine.Report
import TextAnalysis.Settings.Environment
import TextAnalysis.Settings.Stored
import TextAnalysis.StopWords.Store
import TextAnalysis.Tokenizer.Registry

/-!
# Commands

What each command does to the files, and what it prints. A command that fails leaves the files as they
were and prints nothing.
-/

namespace TextAnalysis.CommandLine

open StopWords

/-- What a command has done: the files as it leaves them, and its output or its error. -/
structure Outcome where
  output : Except Error String
  files : Files

/-- The settings of the file of a request, or the usual ones if there is none. -/
def baseSettings (files : Files) (request : TokenizeRequest) : Except Error Settings :=
  match request.config with
  | some path => Settings.ofFile files path
  | none => .ok {}

/-- The settings with those that a request gives itself. -/
def TokenizeRequest.overlay (request : TokenizeRequest) (s : Settings) : Settings :=
  { s with
    languages := if request.languages = [] then s.languages else request.languages
    minTokenLength := request.minTokenLength.getD s.minTokenLength }

/-- The settings of a request: those of the file or the usual ones, overlaid first by the environment
and then by the request. -/
def loadSettings (lookup : String → Option String) (files : Files) (request : TokenizeRequest) :
    Except Error Settings := do
  let base ← baseSettings files request
  match base.applyEnvironment lookup with
  | (.error e, _) => .error e
  | (.ok (), settings) =>
    let settings := request.overlay settings
    let _ ← settings.resolve
    .ok settings

/-- The mode that a request asks for. -/
def modeOf (request : TokenizeRequest) : Mode :=
  let mode := if request.query then Mode.forQuery else Mode.forDocument
  if request.partialTerm then (mode.union .forQuery).union .forPrefix else mode

/-- The stop-word store of a request, with what it consists of: the file that is given, or a table of
the English stop words. -/
def storeOf (files : Files) (request : TokenizeRequest) : Store × Holdings :=
  match request.stopWords with
  | some path => (.file path, { files })
  | none => (.memory 0, { tables := [.english], files })

/-- A token as it is reported. -/
def recordOf (text : String) (token : Token) : TokenRecord :=
  ⟨token.text, (token.source? text).getD "", token.start, token.stop⟩

/-- The settings of a request, and the tokenizer that they describe over the chosen one. -/
def prepare (lookup : String → Option String) (files : Files) (request : TokenizeRequest) :
    Except Error (Settings × Tokenizer Store Lookup) := do
  let settings ← loadSettings lookup files request
  let tokenizer ← Registry.plain.build settings (storeOf files request).1 (some request.inner)
  .ok (settings, tokenizer)

/-- Tokenize the text of a request. -/
def tokenizeText (lookup : String → Option String) (files : Files) (request : TokenizeRequest) :
    Except Error Report := do
  let (settings, tokenizer) ← prepare lookup files request
  let mode := modeOf request
  match tokenizer.collect (storeOf files request).2.access request.text mode () with
  | (.error e, _) => .error e
  | (.ok tokens, _) =>
    .ok (.tokens settings.languages (suppressesStopWords mode request.text)
      (tokens.map (recordOf request.text)))

/-- Write to one file what `change` makes of the content of another. -/
def transformFile (change : Bytes → Except Error Bytes) (files : Files) (input output : String) :
    Except Error (Report × Files) :=
  match files.read input with
  | .error fault => .error (.file fault)
  | .ok content =>
    match change content with
    | .error e => .error e
    | .ok changed =>
      match files.write output changed with
      | .error fault => .error (.file fault)
      | .ok files => .ok (.transformed input output content.length changed.length, files)

/-- Tell whether a file is a blob. -/
def checkFile (files : Files) (input : String) : Except Error Report :=
  match files.read input with
  | .error fault => .error (.file fault)
  | .ok content => .ok (.checked input (Blob.isBlob content))

/-- The title, the result and the files of a command, where `encoder` makes the streams of blobs. -/
def Command.performWith (encoder : Bytes → Bytes) (lookup : String → Option String) (files : Files) :
    Command → String × Except Error (Report × Files)
  | tokenize request =>
    ("Tokens for " ++ Text.quoted request.text, (tokenizeText lookup files request).map (·, files))
  | stemmers => ("Supported stemmers", .ok (.languages (Language.all.map Language.name), files))
  | compress input output =>
    ("Compressed", transformFile (Blob.compressWith encoder) files input output)
  | uncompress input output => ("Uncompressed", transformFile Blob.uncompress files input output)
  | isCompressed input => ("Compression check", (checkFile files input).map (·, files))

/-- Carry out an invocation, where `encoder` makes the streams of blobs. -/
def Invocation.runWith (encoder : Bytes → Bytes) (lookup : String → Option String) (files : Files)
    (i : Invocation) : Outcome :=
  match i.command.performWith encoder lookup files with
  | (title, .ok (report, files)) => ⟨.ok (report.show i title), files⟩
  | (_, .error e) => ⟨.error e, files⟩

/-- Carry out an invocation. Blobs hold their content as it stands. -/
def Invocation.run (lookup : String → Option String) (files : Files) (i : Invocation) : Outcome :=
  i.runWith Blob.deflate lookup files

end TextAnalysis.CommandLine
