import TextAnalysis.Files
import TextAnalysis.Text.Quoted

/-!
# Stop-word files

Stop words are kept in a text file, one word to a line. When the file is read, empty lines do not
count, and a carriage return at the end of a line belongs to the line ending.
-/

namespace TextAnalysis.StopWords

/-- The text without one carriage return at its end. -/
def dropReturn (line : List Char) : List Char :=
  if line.getLast? = some '\r' then line.dropLast else line

/-- The lines of a text, given the characters of the current line, last one first. A line that ends
in a line feed has it taken off, with a carriage return before it; the last line is a line only if it
is not empty. -/
def splitLines : List Char → List Char → List (List Char)
  | [], [] => []
  | line, [] => [line.reverse]
  | line, c :: cs =>
    if c = '\n' then dropReturn line.reverse :: splitLines [] cs else splitLines (c :: line) cs

/-- The words that the lines of a text hold. -/
def wordsOfText (text : String) : List String :=
  (((splitLines [] text.toList).map dropReturn).filter (· ≠ [])).map String.ofList

/-- The words before the first one that contains a line feed, and that one. -/
def beforeLineBreak : List String → List String × Option String
  | [] => ([], none)
  | word :: words =>
    if word.toList.contains '\n' then ([], some word)
    else
      let (accepted, rejected) := beforeLineBreak words
      (word :: accepted, rejected)

/-- The text that holds one word to a line. -/
def textOfWords (words : List String) : String :=
  String.join (words.map (· ++ "\n"))

/-- The error of a word that does not fit on one line. -/
def lineBreakError (word : String) : Error :=
  .invalidArgument ("stop word " ++ Text.quoted word ++ " contains a line break")

/-- Write words to the file at a path. Words are written as they come, so that a word that is
rejected leaves those before it in the file. -/
def writeWords (files : Files) (path : String) (words : List String) :
    Except Error Unit × Files :=
  let (accepted, rejected) := beforeLineBreak words
  match files.write path (Text.toBytes (textOfWords accepted)) with
  | .error fault => (.error (.file fault), files)
  | .ok files =>
    match rejected with
    | some word => (.error (lineBreakError word), files)
    | none => (.ok (), files)

end TextAnalysis.StopWords
