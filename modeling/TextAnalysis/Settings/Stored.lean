import TextAnalysis.Files
import TextAnalysis.Json.Reader
import TextAnalysis.Json.Value
import TextAnalysis.Settings.Basic

/-!
# Stored settings

Settings are stored as a JSON record. When they are read, fields that are not known are passed over and
fields that are missing have their usual values; a list of the fields in order is read as well. The
settings that an index was built with are stored beside it by the first one who asks for them.
-/

namespace TextAnalysis.Settings

open Json

/-- The settings as a JSON value. -/
def toJson (s : Settings) : Value :=
  .record [("languages", .list (s.languages.map .text)),
           ("remove_diacritics", .flag s.removeDiacritics),
           ("token_characters", .text s.tokenCharacters),
           ("separators", .text s.separators),
           ("min_token_length", .count s.minTokenLength)]

/-- The fields that have been read. -/
structure Draft where
  languages : Option (List String) := none
  removeDiacritics : Option Bool := none
  tokenCharacters : Option String := none
  separators : Option String := none
  minTokenLength : Option Nat := none
deriving Repr, DecidableEq

/-- The settings of a draft. -/
def ofDraft (d : Draft) : Settings :=
  let usual : Settings := {}
  { languages := d.languages.getD usual.languages
    removeDiacritics := d.removeDiacritics.getD usual.removeDiacritics
    tokenCharacters := d.tokenCharacters.getD usual.tokenCharacters
    separators := d.separators.getD usual.separators
    minTokenLength := d.minTokenLength.getD usual.minTokenLength }

/-- Read the value of a field that must not have been read before. -/
def readOnce {α : Type} (before : Option α) (value : Reader α) (set : α → Draft) : Reader Draft :=
  fun cs =>
    match before with
    | some _ => .error .unsuitable
    | none =>
      match readColon cs with
      | .error fault => .error fault
      | .ok rest => (value rest).map fun (a, rest) => (set a, rest)

/-- Read what follows a key: the value of the field, or a value of any kind. -/
def readField (d : Draft) (key : String) : Reader Draft := fun cs =>
  if key = "languages" then
    readOnce d.languages (readList readText) (fun a => { d with languages := some a }) cs
  else if key = "remove_diacritics" then
    readOnce d.removeDiacritics readFlag (fun a => { d with removeDiacritics := some a }) cs
  else if key = "token_characters" then
    readOnce d.tokenCharacters readText (fun a => { d with tokenCharacters := some a }) cs
  else if key = "separators" then
    readOnce d.separators readText (fun a => { d with separators := some a }) cs
  else if key = "min_token_length" then
    readOnce d.minTokenLength readCount (fun a => { d with minTokenLength := some a }) cs
  else
    match readColon cs with
    | .error fault => .error fault
    | .ok rest => (skipValue rest).map (d, ·)

/-- Read the fields of a record up to its end, at most as many as `fuel` tells. -/
def readFields : Nat → Bool → Draft → Reader Draft
  | 0, _, _, _ => .error .malformed
  | fuel + 1, isFirst, d, cs =>
    match nextKey isFirst cs with
    | .error fault => .error fault
    | .ok (false, rest) => (closeRecord rest).map (d, ·)
    | .ok (true, rest) =>
      match readString rest with
      | .error fault => .error fault
      | .ok (key, rest) =>
        match readField d key rest with
        | .error fault => .error fault
        | .ok (d, rest) => readFields fuel false d rest

/-- The fields in the order in which a list has them, each as a reader that fills it in. -/
def orderedFields : List (Draft → Reader Draft) :=
  [fun d cs => (readList readText cs).map fun (a, rest) => ({ d with languages := some a }, rest),
   fun d cs => (readFlag cs).map fun (a, rest) => ({ d with removeDiacritics := some a }, rest),
   fun d cs => (readText cs).map fun (a, rest) => ({ d with tokenCharacters := some a }, rest),
   fun d cs => (readText cs).map fun (a, rest) => ({ d with separators := some a }, rest),
   fun d cs => (readCount cs).map fun (a, rest) => ({ d with minTokenLength := some a }, rest)]

/-- Read the given fields from a list, the later of which may be missing. -/
def readOrdered : List (Draft → Reader Draft) → Bool → Draft → Reader Draft
  | [], _, d, cs => (closeList cs).map (d, ·)
  | field :: fields, isFirst, d, cs =>
    match nextElement isFirst cs with
    | .error fault => .error fault
    | .ok (false, rest) => (closeList rest).map (d, ·)
    | .ok (true, rest) =>
      match field d rest with
      | .error fault => .error fault
      | .ok (d, rest) => readOrdered fields false d rest

/-- Read the fields that a record or a list gives. -/
def readDraft : Reader Draft := fun cs =>
  match skipSpace cs with
  | '\x7b' :: rest => readFields (rest.length + 1) true {} rest
  | '[' :: rest => readOrdered orderedFields true {} rest
  | cs => .error (unsuitableValue cs)

/-- Read settings. -/
def readSettings : Reader Settings := fun cs =>
  (readDraft cs).map fun (d, rest) => (ofDraft d, rest)

/-- The settings that a JSON text holds. -/
def ofJson (text : String) : Except Error Settings :=
  match readWhole readSettings text with
  | .ok s => .ok s
  | .error fault => .error (.json fault)

/-- The settings that a file holds. -/
def ofFile (files : Files) (path : String) : Except Error Settings :=
  match files.readText path with
  | .error fault => .error (.file fault)
  | .ok text => ofJson text

/-- The text of settings as they are stored. -/
def storedText (s : Settings) : String := s.toJson.write true

/-- Compare the settings with those stored at a path, or store them there if nothing is. -/
def checkStored (s : Settings) (files : Files) (path : String) : Except Error Unit × Files :=
  if files.present path then
    match ofFile files path with
    | .error e => (.error e, files)
    | .ok stored =>
      if s.serves stored then (.ok (), files)
      else (.error (.settingsMismatch "config does not match index state"), files)
  else
    match files.write path (Text.toBytes s.storedText) with
    | .error fault => (.error (.file fault), files)
    | .ok files => (.ok (), files)

end TextAnalysis.Settings
