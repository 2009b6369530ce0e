import TextAnalysis.Settings.Stored

/-!
# Drafts of settings

A source of settings may give some fields and leave the others. What it gives is a draft, which is laid over
settings. The settings of a file are its draft over the usual ones.
-/

namespace TextAnalysis.Settings

open Json

/-- The settings with the fields of a draft where it has any. -/
def withDraft (s : Settings) (d : Draft) : Settings where
  languages := d.languages.getD s.languages
  removeDiacritics := d.removeDiacritics.getD s.removeDiacritics
  tokenCharacters := d.tokenCharacters.getD s.tokenCharacters
  separators := d.separators.getD s.separators
  minTokenLength := d.minTokenLength.getD s.minTokenLength

/-! ### Files -/

/-- The settings of a text are the usual ones under the fields that it gives. -/
theorem readWhole_readSettings (text : String) :
    readWhole readSettings text = (readWhole readDraft text).map ofDraft := by
  unfold readWhole
  rw [readSettings]
  cases readDraft text.toList with
  | error fault => rfl
  | ok found =>
    dsimp only [Except.map]
    split <;> rfl

/-- What a file of settings gives, or why nothing can be read from it. Nothing is given where there is no
file. -/
inductive FileGives (files : Files) : Option String → Except Error Draft → Prop
  | noFile : FileGives files none (.ok {})
  | unreadable {path : String} {fault : FileFault} (fails : files.readText path = .error fault) :
      FileGives files (some path) (.error (.file fault))
  | unparsable {path text : String} {fault : JsonFault} (reads : files.readText path = .ok text)
      (fails : readWhole readDraft text = .error fault) : FileGives files (some path) (.error (.json fault))
  | given {path text : String} {d : Draft} (reads : files.readText path = .ok text)
      (parses : readWhole readDraft text = .ok d) : FileGives files (some path) (.ok d)

/-- A file gives something or cannot be read. -/
theorem exists_fileGives (files : Files) (config : Option String) :
    ∃ given, FileGives files config given := by
  cases config with
  | none => exact ⟨_, .noFile⟩
  | some path =>
    cases reads : files.readText path with
    | error fault => exact ⟨_, .unreadable reads⟩
    | ok text =>
      cases parses : readWhole readDraft text with
      | error fault => exact ⟨_, .unparsable reads parses⟩
      | ok d => exact ⟨_, .given reads parses⟩

/-- The settings of a file are the usual ones under the fields that it gives. -/
theorem FileGives.ofFile_eq {files : Files} {path : String} {given : Except Error Draft}
    (gives : FileGives files (some path) given) : ofFile files path = given.map ofDraft := by
  unfold ofFile ofJson
  cases gives with
  | unreadable fails => simp only [fails, Except.map]
  | unparsable reads fails => simp only [reads, readWhole_readSettings, fails, Except.map]
  | given reads parses => simp only [reads, readWhole_readSettings, parses, Except.map]

end TextAnalysis.Settings
