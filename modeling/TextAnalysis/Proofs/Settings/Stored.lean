import TextAnalysis.Proofs.Files
import TextAnalysis.Proofs.Json.Reader
import TextAnalysis.Proofs.Settings.Drafts

/-!
# Stored settings are those of the first who asked

Settings are read back from their stored form as they were, whatever characters they hold. So the first
check at a path where nothing is stored fixes the settings of an index: each later check leaves the file
alone and succeeds exactly if the settings can serve that index.
-/

namespace TextAnalysis.Settings

open Json

/-! ### Reading back -/

/-- The written value of a field makes the draft `d'` of the draft `d`. -/
def FillsField (d : Draft) (key : String) (value : Value) (d' : Draft) : Prop :=
  ∀ rest, EndsNumber rest → readField d key (':' :: ' ' :: (value.indented 1 ++ rest)) = .ok (d', rest)

/-- The written fields, one after another, make the draft `d'` of the draft `d`. -/
inductive Fills : Draft → List (String × Value) → Draft → Prop where
  | nil (d : Draft) : Fills d [] d
  | cons {d d' d'' : Draft} {key : String} {value : Value} {fields : List (String × Value)} :
      FillsField d key value d' → Fills d' fields d'' → Fills d ((key, value) :: fields) d''

private theorem fillsField_of_reads {α : Type} {reader : Reader α} {value : Value} {a : α}
    (h : Reads reader (value.indented 1) a) {d : Draft} {key : String} (set : α → Draft)
    (field : readField d key = readOnce none reader set) : FillsField d key value (set a) := by
  intro rest hr
  have space : IsSpace [' '] := by simp [IsSpace, isSpace]
  have read := h [' '] rest space hr
  rw [List.singleton_append] at read
  have colon : readColon (':' :: ' ' :: (value.indented 1 ++ rest)) =
      .ok (' ' :: (value.indented 1 ++ rest)) := by
    simp only [readColon, skipSpace_cons (c := ':') rfl]
  rw [field]
  simp only [readOnce, colon, read, Except.map]

/-- Fields that are written after others fill in what these have left. -/
theorem Fills.append {d d' d'' : Draft} {fields fields' : List (String × Value)} (first : Fills d fields d')
    (second : Fills d' fields' d'') : Fills d (fields ++ fields') d'' := by
  induction first with
  | nil d => exact second
  | cons here _ ih => exact .cons here (ih second)

/-- The fields that a draft has, as they are written. -/
def Draft.fields (d : Draft) : List (String × Value) :=
  (d.languages.toList.map fun names => ("languages", .list (names.map .text))) ++
    (d.removeDiacritics.toList.map fun flag => ("remove_diacritics", .flag flag)) ++
    (d.tokenCharacters.toList.map fun text => ("token_characters", .text text)) ++
    (d.separators.toList.map fun text => ("separators", .text text)) ++
    d.minTokenLength.toList.map fun n => ("min_token_length", .count n)

private theorem fills_toList {α : Type} {reader : Reader α} (key : String) (write : α → Value) (field : Option α)
    (put : Option α → Draft) (reads : ∀ a, field = some a → Reads reader ((write a).indented 1) a)
    (reading : readField (put none) key = readOnce none reader fun a => put (some a)) :
    Fills (put none) (field.toList.map fun a => (key, write a)) (put field) := by
  cases field with
  | none => exact .nil _
  | some a => exact .cons (fillsField_of_reads (reads a rfl) (fun a => put (some a)) reading) (.nil _)

/-- The fields that a draft has make that draft. -/
theorem fills_fields {d : Draft} (fits : ∀ n, d.minTokenLength = some n → n < Text.countLimit) :
    Fills {} d.fields d := by
  obtain ⟨names, flag, taken, split, count⟩ := d
  have first := fills_toList "languages" (fun names => .list (names.map .text)) names
    (fun o => ⟨o, none, none, none, none⟩) (fun names _ => reads_texts 1 names) rfl
  have second := fills_toList "remove_diacritics" .flag flag
    (fun o => ⟨names, o, none, none, none⟩) (fun flag _ => reads_flag flag) rfl
  have third := fills_toList "token_characters" .text taken
    (fun o => ⟨names, flag, o, none, none⟩) (fun text _ => reads_text text) rfl
  have fourth := fills_toList "separators" .text split
    (fun o => ⟨names, flag, taken, o, none⟩) (fun text _ => reads_text text) rfl
  have fifth := fills_toList "min_token_length" .count count
    (fun o => ⟨names, flag, taken, split, o⟩) (fun n has => reads_count (fits n has)) rfl
  exact (((first.append second).append third).append fourth).append fifth

/-- The written form of a field at a depth of indentation. -/
private def fieldText (depth : Nat) (field : String × Value) : List Char :=
  writeString field.1 ++ ':' :: ' ' :: field.2.indented depth

private theorem indentedFields_eq_map (depth : Nat) (fields : List (String × Value)) :
    Value.indentedFields depth fields = fields.map (fieldText depth) := by
  induction fields with
  | nil => rfl
  | cons field fields ih => rw [Value.indentedFields, ih, List.map_cons, fieldText]

private theorem readFields_fieldText {d d' : Draft} {key : String} {value : Value}
    (h : FillsField d key value d') (fuel : Nat) {rest : List Char} (hr : EndsNumber rest) :
    readFields (fuel + 1) true d (Value.newLine 1 ++ (fieldText 1 (key, value) ++ rest)) =
        readFields fuel false d' rest ∧
      readFields (fuel + 1) false d (',' :: (Value.newLine 1 ++ (fieldText 1 (key, value) ++ rest))) =
        readFields fuel false d' rest := by
  obtain ⟨body, hw, hb⟩ :=
    readString_writeString key (':' :: ' ' :: (value.indented 1 ++ rest))
  have written : fieldText 1 (key, value) ++ rest =
      '"' :: (body ++ ':' :: ' ' :: (value.indented 1 ++ rest)) := by
    rw [fieldText, hw]
    simp only [List.cons_append, List.append_assoc]
  have space := isSpace_newLine 1
  have comma := skipSpace_cons (c := ',') rfl
  rw [written]
  constructor
  · simp [readFields, nextKey, skipSpace_append_cons space (c := '"') rfl, hb, h rest hr]
  · simp [readFields, nextKey, comma, skipSpace_append_cons space (c := '"') rfl, hb, h rest hr]

private theorem readFields_afterPiece {d d' : Draft} {fields : List (String × Value)}
    (h : Fills d fields d') {fuel : Nat} (hf : fields.length < fuel) (rest : List Char) :
    readFields fuel false d (afterPiece 0 '\x7d' (fields.map (fieldText 1)) rest) = .ok (d', rest) := by
  induction h generalizing fuel with
  | nil d =>
    obtain ⟨fuel, rfl⟩ : ∃ k, fuel = k + 1 := ⟨fuel - 1, by omega⟩
    have space := isSpace_newLine 0
    simp only [List.map_nil, afterPiece, List.flatMap_nil, List.nil_append, readFields, nextKey,
      skipSpace_append_cons space (c := '\x7d') rfl]
    rfl
  | @cons d d' d'' key value fields here _ ih =>
    obtain ⟨fuel, rfl⟩ : ∃ k, fuel = k + 1 := ⟨fuel - 1, by omega⟩
    have ends := endsNumber_afterPiece 0 (.inr rfl) (fields.map (fieldText 1)) rest
    rw [List.map_cons, afterPiece_cons, (readFields_fieldText here fuel ends).2]
    exact ih (Nat.lt_of_succ_lt_succ hf)

/-- A record whose fields make a draft is read as that draft. -/
theorem readDraft_record {d : Draft} {fields : List (String × Value)} (h : Fills {} fields d)
    (rest : List Char) : readDraft ((Value.record fields).indented 0 ++ rest) = .ok (d, rest) := by
  cases h with
  | nil => rfl
  | @cons _ d' _ key value fields here later =>
    have ends := endsNumber_afterPiece 0 (.inr rfl) (fields.map (fieldText 1)) rest
    have room := length_lt_afterPiece 0 '\x7d' (fields.map (fieldText 1)) rest
    rw [List.length_map] at room
    rw [Value.indented, indentedFields_eq_map, List.map_cons, Value.block_cons, readDraft,
      skipSpace_cons rfl, Nat.zero_add]
    simp only [(readFields_fieldText here _ ends).1]
    rw [readFields_afterPiece later (by simp only [List.length_append]; omega)]

/-- A draft is read back from the record of the fields that it has, whichever these are. -/
theorem readWhole_fields {d : Draft} (fits : ∀ n, d.minTokenLength = some n → n < Text.countLimit) :
    readWhole readDraft ((Value.record d.fields).write true) = .ok d := by
  have read := readDraft_record (fills_fields fits) []
  rw [List.append_nil] at read
  rw [readWhole, Value.write, if_pos rfl, String.toList_ofList, read]
  rfl

/-- A file with the record of some fields gives these fields and no others. -/
theorem fileGives_of_write {files files' : Files} {path : String} {d : Draft}
    (fits : ∀ n, d.minTokenLength = some n → n < Text.countLimit)
    (written : files.write path (Text.toBytes ((Value.record d.fields).write true)) = .ok files') :
    FileGives files' (some path) (.ok d) :=
  .given (Files.readText_of_write written) (readWhole_fields fits)

/-- Settings are read back from their stored form, whatever their texts are, known languages or not. -/
theorem ofJson_storedText {s : Settings} (fits : s.minTokenLength < Text.countLimit) :
    ofJson s.storedText = .ok s := by
  let d : Draft :=
    ⟨s.languages, s.removeDiacritics, s.tokenCharacters, s.separators, s.minTokenLength⟩
  have fields : s.toJson = .record d.fields := rfl
  have whole : readWhole readDraft s.storedText = .ok d := by
    rw [storedText, fields]
    exact readWhole_fields fun n has => Option.some.inj has ▸ fits
  rw [ofJson, readWhole_readSettings, whole]
  rfl

/-! ### Checks in turn -/

/-- The outcomes when several settings are checked at a path one after another, each with the files as
they are then. -/
def checkInTurn : List Settings → Files → String → List (Except Error Unit × Files)
  | [], _, _ => []
  | s :: later, files, path =>
    s.checkStored files path :: checkInTurn later (s.checkStored files path).2 path

/-- The settings are the same but for the least length of a token. -/
def SameIndex (s stored : Settings) : Prop :=
  s.languages = stored.languages ∧ s.removeDiacritics = stored.removeDiacritics ∧
    s.tokenCharacters = stored.tokenCharacters ∧ s.separators = stored.separators

instance (s stored : Settings) : Decidable (s.SameIndex stored) := instDecidableAnd

/-- Settings serve an index exactly if they are those of the index but for the least length. -/
theorem serves_iff (s stored : Settings) : s.serves stored = true ↔ s.SameIndex stored := by
  simp [serves, SameIndex, and_assoc]

/-- How a check ends at a path where settings are stored. -/
def verdictOn (s stored : Settings) : Except Error Unit :=
  if s.SameIndex stored then .ok ()
  else .error (.settingsMismatch "config does not match index state")

/-- Where settings are stored, a check compares with them and changes nothing. -/
theorem checkStored_of_present {files : Files} {path : String} {stored : Settings}
    (present : files.present path = true) (holds : ofFile files path = .ok stored) (s : Settings) :
    s.checkStored files path = (s.verdictOn stored, files) := by
  rw [checkStored, if_pos present, holds, verdictOn]
  by_cases h : s.SameIndex stored
  · rw [if_pos h]
    simp only [if_pos ((serves_iff s stored).mpr h)]
  · rw [if_neg h]
    simp only [if_neg (mt (serves_iff s stored).mp h)]

/-- Where settings are stored they stay, however many checks are made. -/
theorem checkInTurn_of_present {files : Files} {path : String} {stored : Settings}
    (present : files.present path = true) (holds : ofFile files path = .ok stored)
    (later : List Settings) :
    checkInTurn later files path = later.map fun s => (s.verdictOn stored, files) := by
  induction later with
  | nil => rfl
  | cons s later ih => rw [checkInTurn, checkStored_of_present present holds, ih, List.map_cons]

/-- The first of several settings that are checked at a path where nothing is yet, and where a file can be
written, is accepted and stored there. It can be read back as it was. No later check changes any file, and
each succeeds exactly if its settings have the languages in order, the treatment of diacritics, the token
characters and the separators of the first, and else fails for that reason alone. -/
theorem first_settings_stay {files : Files} {path name : String}
    (absent : files.present path = false) (writable : files.locate path = .ok name)
    {first : Settings} (fits : first.minTokenLength < Text.countLimit) (later : List Settings) :
    ofJson first.storedText = .ok first ∧
      ∃ recorded : Files, files.write path (Text.toBytes first.storedText) = .ok recorded ∧
        ofFile recorded path = .ok first ∧
        checkInTurn (first :: later) files path =
          (.ok (), recorded) :: later.map fun s =>
            (if s.languages = first.languages ∧ s.removeDiacritics = first.removeDiacritics ∧
                s.tokenCharacters = first.tokenCharacters ∧ s.separators = first.separators
              then .ok ()
              else .error (.settingsMismatch "config does not match index state"), recorded) := by
  have written : files.write path (Text.toBytes first.storedText) =
      .ok (files.insert name (Text.toBytes first.storedText)) :=
    Files.write_eq_ok_iff.mpr ⟨name, writable, rfl⟩
  have present := Files.present_of_write written
  have holds : ofFile (files.insert name (Text.toBytes first.storedText)) path = .ok first := by
    simp only [ofFile, Files.readText_of_write written, ofJson_storedText fits]
  refine ⟨ofJson_storedText fits, _, written, holds, ?_⟩
  have check : first.checkStored files path =
      (.ok (), files.insert name (Text.toBytes first.storedText)) := by
    simp only [checkStored, absent, Bool.false_eq_true, if_false, written]
  rw [checkInTurn, check, checkInTurn_of_present present holds]
  rfl

/-- Quotes, a line feed and the greatest length are stored and read back; a shorter least length serves
the index, languages in another order do not. -/
theorem first_settings_stay_through_three_checks :
    let first : Settings :=
      { languages := ["sv", "nö\"pe"], tokenCharacters := "'\\\n", minTokenLength := 0xFFFFFFFFFFFFFFFF }
    ({} : Files).present "stemmer.json" = false ∧
      ({} : Files).locate "stemmer.json" = .ok "stemmer.json" ∧
      first.minTokenLength < Text.countLimit ∧
      ofJson first.storedText = .ok first ∧
      (checkInTurn
          [first, { first with minTokenLength := 1 }, { first with languages := ["nö\"pe", "sv"] }] {}
          "stemmer.json").map Prod.fst =
        [.ok (), .ok (), .error (.settingsMismatch "config does not match index state")] := by
  intro first
  have absent : ({} : Files).present "stemmer.json" = false := by decide +kernel
  have writable : ({} : Files).locate "stemmer.json" = .ok "stemmer.json" :=
    Files.locate_eq_ok_iff.mpr (by decide +kernel)
  have fits : first.minTokenLength < Text.countLimit :=
    (by decide : 0xFFFFFFFFFFFFFFFF < Text.countLimit)
  obtain ⟨back, recorded, -, -, checks⟩ := first_settings_stay absent writable fits
    [{ first with minTokenLength := 1 }, { first with languages := ["nö\"pe", "sv"] }]
  refine ⟨absent, writable, fits, back, ?_⟩
  rw [checks]
  rfl

end TextAnalysis.Settings
