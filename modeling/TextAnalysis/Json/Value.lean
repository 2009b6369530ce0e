import TextAnalysis.Json.Quoted
import TextAnalysis.Text.Numeral

/-!
# Writing JSON

The values that are written, and their two written forms: on one line, or indented by two spaces.
-/

namespace TextAnalysis.Json

/-- A value to be written. The fields of a record keep their order. -/
inductive Value where
  | text (s : String)
  | count (n : Nat)
  | flag (b : Bool)
  | list (items : List Value)
  | record (fields : List (String × Value))

namespace Value

/-- The characters of a truth value. -/
def flagChars (b : Bool) : List Char := if b then ['t', 'r', 'u', 'e'] else ['f', 'a', 'l', 's', 'e']

/-- Several pieces with a separator between them. -/
def join (separator : List Char) (pieces : List (List Char)) : List Char :=
  separator.intercalate pieces

mutual

/-- A value on one line. -/
def compact : Value → List Char
  | text s => writeString s
  | count n => Nat.toDigits 10 n
  | flag b => flagChars b
  | list items => '[' :: join [','] (compactItems items) ++ [']']
  | record fields => '\x7b' :: join [','] (compactFields fields) ++ ['\x7d']

/-- Each item on one line. -/
def compactItems : List Value → List (List Char)
  | [] => []
  | v :: vs => compact v :: compactItems vs

/-- Each field on one line. -/
def compactFields : List (String × Value) → List (List Char)
  | [] => []
  | (key, v) :: fields => (writeString key ++ ':' :: compact v) :: compactFields fields

end

/-- A new line with the given indentation. -/
def newLine (depth : Nat) : List Char := '\n' :: List.replicate (2 * depth) ' '

/-- Pieces between an opening and a closing character, each on a line of its own one level deeper. -/
def block (opening closing : Char) (depth : Nat) (pieces : List (List Char)) : List Char :=
  if pieces = [] then [opening, closing]
  else
    opening :: newLine (depth + 1) ++ join (',' :: newLine (depth + 1)) pieces ++ newLine depth ++
      [closing]

mutual

/-- A value at the given depth of indentation. -/
def indented (depth : Nat) : Value → List Char
  | text s => writeString s
  | count n => Nat.toDigits 10 n
  | flag b => flagChars b
  | list items => block '[' ']' depth (indentedItems (depth + 1) items)
  | record fields => block '\x7b' '\x7d' depth (indentedFields (depth + 1) fields)

/-- Each item at the given depth. -/
def indentedItems (depth : Nat) : List Value → List (List Char)
  | [] => []
  | v :: vs => indented depth v :: indentedItems depth vs

/-- Each field at the given depth. -/
def indentedFields (depth : Nat) : List (String × Value) → List (List Char)
  | [] => []
  | (key, v) :: fields =>
    (writeString key ++ ':' :: ' ' :: indented depth v) :: indentedFields depth fields

end

/-- The written form of a value, indented or on one line. -/
def write (pretty : Bool) (v : Value) : String :=
  String.ofList (if pretty then v.indented 0 else v.compact)

end Value

end TextAnalysis.Json
