import TextAnalysis.CommandLine.Invocation
import TextAnalysis.Json.Value

/-!
# Reports

What a command tells of its result. A report is shown as JSON, or for a person: tokens one to a line
with their places, and anything else field by field in the order of the field names.
-/

namespace TextAnalysis.CommandLine

open Json

/-- A token with the part of the text that it came from. -/
structure TokenRecord where
  text : String
  source : String
  start : Nat
  stop : Nat
deriving Repr, DecidableEq

/-- The result of a command. -/
inductive Report where
  | tokens (languages : List String) (suppressing : Bool) (records : List TokenRecord)
  | languages (names : List String)
  | transformed (input output : String) (inputSize outputSize : Nat)
  | checked (path : String) (isBlob : Bool)
deriving Repr, DecidableEq

/-- A token as a JSON value. -/
def TokenRecord.toJson (r : TokenRecord) : Value :=
  .record [("text", .text r.text), ("source", .text r.source), ("start", .count r.start),
    ("end", .count r.stop)]

/-- A report as a JSON value. -/
def Report.toJson : Report → Value
  | tokens names suppressing records =>
    .record [("languages", .list (names.map .text)), ("stop_words_active", .flag suppressing),
      ("tokens", .list (records.map TokenRecord.toJson))]
  | languages names => .record [("languages", .list (names.map .text))]
  | transformed input output inputSize outputSize =>
    .record [("input", .text input), ("output", .text output), ("input_bytes", .count inputSize),
      ("output_bytes", .count outputSize)]
  | checked path isBlob => .record [("path", .text path), ("compressed", .flag isBlob)]

/-- The width to which the place of a token is filled with blanks on the left. -/
def placeWidth : Nat := 10

/-- A text filled with blanks on the left up to a width. -/
def padLeft (width : Nat) (s : String) : String :=
  String.ofList (List.replicate (width - s.length) ' ') ++ s

/-- The line of a token: its place, its text and, if it is another, its source. -/
def TokenRecord.line (r : TokenRecord) : String :=
  padLeft placeWidth (Text.decimal r.start ++ ".." ++ Text.decimal r.stop) ++ "  " ++ r.text ++
    (if r.text = r.source then "" else "  (" ++ r.source ++ ")")

/-- The lines of a report for a person. -/
def Report.lines : Report → List String
  | tokens _ _ records => if records = [] then ["(no tokens)"] else records.map TokenRecord.line
  | languages names => ["languages: [" ++ ", ".intercalate names ++ "]"]
  | transformed input output inputSize outputSize =>
    ["input: " ++ input, "input_bytes: " ++ Text.decimal inputSize, "output: " ++ output,
     "output_bytes: " ++ Text.decimal outputSize]
  | checked path isBlob => ["compressed: " ++ (if isBlob then "true" else "false"), "path: " ++ path]

/-- Lines as one text. -/
def unlines (lines : List String) : String := String.join (lines.map (· ++ "\n"))

/-- The output of a report. For a person a title stands above it if much is to be told. -/
def Report.show (i : Invocation) (title : String) (r : Report) : String :=
  match i.format with
  | .json => unlines [r.toJson.write i.pretty]
  | .human => unlines ((if 1 < i.verbosity then [title, ""] else []) ++ r.lines)

end TextAnalysis.CommandLine
