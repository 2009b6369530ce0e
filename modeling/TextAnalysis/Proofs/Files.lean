import TextAnalysis.Files
import TextAnalysis.Proofs.Text.Utf8

/-!
# Laws of files

What is written at a path is found there afterwards, and a text that is written is read back as it was.
A path that leads to a file leads to the same file after any file is written, and no other file is changed.
-/

namespace TextAnalysis

namespace Files

variable {files files' : Files} {path name : String} {content : Bytes}

/-- Content can be written exactly where a path leads to a file, and it becomes the content of that
file. -/
theorem write_eq_ok_iff :
    files.write path content = .ok files' ↔
      ∃ name, files.locate path = .ok name ∧ files' = files.insert name content := by
  rw [write]
  cases files.locate path with
  | error fault => simp
  | ok name => simp [eq_comm]

/-- What is put under a name is found there. -/
theorem find?_insert (files : Files) (name : String) (content : Bytes) :
    (files.insert name content).find? name = some content := by
  rw [find?, insert, List.lookup_cons_self]

/-- What is found under other names stays. -/
theorem find?_insert_of_ne (files : Files) {other : String} (ne : other ≠ name) (content : Bytes) :
    (files.insert name content).find? other = files.find? other := by
  rw [find?, insert, List.lookup_cons, beq_false_of_ne ne, erase, find?]
  dsimp only
  induction files.entries with
  | nil => rfl
  | cons entry entries ih =>
    obtain ⟨first, held⟩ := entry
    by_cases erased : first = name
    · rw [List.filter_cons_of_neg (by simpa using erased), ih, erased, List.lookup_cons, beq_false_of_ne ne]
    · rw [List.filter_cons_of_pos (by simpa using erased), List.lookup_cons, List.lookup_cons, ih]

/-- The files are the same except for those with the given names, which may be there or not. -/
def SameExcept (names : List String) (files files' : Files) : Prop :=
  files'.directories = files.directories ∧ ∀ name, name ∉ names → files'.find? name = files.find? name

/-- What is put under a name changes no other file. -/
theorem sameExcept_insert (files : Files) (name : String) (content : Bytes) :
    SameExcept [name] files (files.insert name content) :=
  ⟨rfl, fun _ other => find?_insert_of_ne files (mt List.mem_singleton.mpr other) content⟩

/-- What changes some files and then others changes no files besides. -/
theorem SameExcept.trans {names names' : List String} {files'' : Files} (first : SameExcept names files files')
    (second : SameExcept names' files' files'') : SameExcept (names ++ names') files files'' := by
  refine ⟨second.1.trans first.1, fun name other => ?_⟩
  rw [List.mem_append, not_or] at other
  exact (second.2 name other.2).trans (first.2 name other.1)

/-- A path leads to a file exactly if it is well formed and the names before the last one lead to a
directory while all of them do not. -/
theorem locate_eq_ok_iff :
    files.locate path = .ok name ↔
      '\x00' ∉ path.toList ∧ path ≠ "" ∧
        (∀ part ∈ pathNames path, part.utf8ByteSize ≤ greatestNameLength) ∧
        files.isDirectory (pathNames path) = false ∧
        files.isDirectory (pathNames path).dropLast = true ∧ endsInDirectory path = false ∧
        joinNames (pathNames path) = name := by
  simp only [locate]
  split
  · next h => simp_all
  · split
    · next h => simp_all
    · split
      · next h =>
        obtain ⟨part, hp, hl⟩ := List.any_eq_true.mp h
        have long : ¬ ∀ part ∈ pathNames path, part.utf8ByteSize ≤ greatestNameLength := fun short =>
          absurd (short part hp) (Nat.not_le.mpr (of_decide_eq_true hl))
        simp [long]
      · split
        · next h => simp [h]
        · split
          · next h =>
            obtain hd | he := Bool.or_eq_true_iff.mp h
            · rw [Bool.not_eq_true'] at hd
              simp [hd]
            · simp [he]
          · next h => simp_all

/-- A path that leads to a file leads there also after a file is put somewhere. -/
theorem locate_insert (h : files.locate path = .ok name) (other : String) (content : Bytes) :
    (files.insert other content).locate path = .ok name := by
  rw [locate_eq_ok_iff] at h ⊢
  exact h

/-- Something is found at a path after it is written there. -/
theorem present_of_write (h : files.write path content = .ok files') : files'.present path = true := by
  obtain ⟨name, located, rfl⟩ := write_eq_ok_iff.mp h
  rw [present, locate_insert located]
  simp only [find?_insert, Option.isSome_some]

/-- What is written at a path is read there. -/
theorem read_of_write (h : files.write path content = .ok files') : files'.read path = .ok content := by
  obtain ⟨name, located, rfl⟩ := write_eq_ok_iff.mp h
  rw [read, locate_insert located]
  simp only [find?_insert]

/-- A text that is written at a path is read there. -/
theorem readText_of_write {text : String} (h : files.write path (Text.toBytes text) = .ok files') :
    files'.readText path = .ok text := by
  rw [readText, read_of_write h]
  simp only [Text.ofBytes?_toBytes]

end Files

end TextAnalysis
