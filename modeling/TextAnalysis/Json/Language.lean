import TextAnalysis.Json.Reader
import TextAnalysis.Stem.Language

/-!
# Languages in JSON

A language is written as its name. It is read from its name, or from a record whose only key is the
name, with the value null.
-/

namespace TextAnalysis.Language

open Json

/-- The JSON text of a language. -/
def toJson (l : Language) : String := String.ofList (writeString l.name)

/-- Read the name of a language. -/
def readName : Reader Language := fun cs =>
  match readText cs with
  | .error fault => .error fault
  | .ok (name, rest) =>
    match ofName? name with
    | some l => .ok (l, rest)
    | none => .error .unsuitable

/-- Read what follows the opening brace of a record. -/
def readRecord : Reader Language := fun cs =>
  match readName cs with
  | .error fault => .error fault
  | .ok (l, rest) =>
    match readColon rest with
    | .error fault => .error fault
    | .ok rest =>
      match readNull rest with
      | .error fault => .error fault
      | .ok ((), rest) => (closeRecord rest).map (l, ·)

/-- Read a language. -/
def readLanguage : Reader Language := fun cs =>
  match skipSpace cs with
  | [] => .error .incomplete
  | '\x7b' :: rest => readRecord rest
  | '"' :: rest => readName ('"' :: rest)
  | _ => .error .malformed

/-- The language that a JSON text holds. -/
def ofJson (text : String) : Except Error Language :=
  match readWhole readLanguage text with
  | .ok l => .ok l
  | .error fault => .error (.json fault)

end TextAnalysis.Language
