import Mathlib.Data.Finset.Max
import TextAnalysis.Proofs.Files
import TextAnalysis.StopWords.Store

/-!
# What becomes of stop words that are written to a file

A list of words is written exactly if no word has a line feed and the file can be written. Each word then
comes back as a line without the carriage returns that end it, up to two of them, and the empty line not at
all. So nothing is lost and nothing invented exactly if no word ends in a carriage return.
-/

namespace TextAnalysis.StopWords

/-- A word without the carriage returns that a line loses at its end: one with the line feed after it, and
one more. -/
def withoutReturns (word : String) : String := String.ofList (dropReturn (dropReturn word.toList))

/-- The word ends in a carriage return. -/
def EndsInReturn (word : String) : Prop := word.toList.getLast? = some '\r'

instance (word : String) : Decidable (EndsInReturn word) := inferInstanceAs (Decidable (_ = _))

/-! ### Writing -/

/-- All words are accepted exactly if none has a line feed. -/
theorem beforeLineBreak_snd_eq_none_iff (words : List String) :
    (beforeLineBreak words).2 = none ↔ ∀ word ∈ words, '\n' ∉ word.toList := by
  induction words with
  | nil => simp [beforeLineBreak]
  | cons word words ih =>
    rw [beforeLineBreak]
    split
    · next h => simp_all
    · next h => simp_all

/-- If all words are accepted, all are written. -/
theorem beforeLineBreak_of_not_mem {words : List String} (h : ∀ word ∈ words, '\n' ∉ word.toList) :
    beforeLineBreak words = (words, none) := by
  induction words with
  | nil => rfl
  | cons word words ih =>
    obtain ⟨here, h⟩ := List.forall_mem_cons.mp h
    rw [beforeLineBreak, if_neg (by simpa using here), ih h]

/-- Words are written exactly if none has a line feed and the file can be written. -/
theorem writeWords_eq_ok_iff {files files' : Files} {path : String} {words : List String} :
    writeWords files path words = (.ok (), files') ↔
      (∀ word ∈ words, '\n' ∉ word.toList) ∧
        files.write path (Text.toBytes (textOfWords words)) = .ok files' := by
  constructor
  · intro h
    rw [writeWords] at h
    cases hb : beforeLineBreak words with
    | mk accepted rejected =>
      simp only [hb] at h
      cases hw : files.write path (Text.toBytes (textOfWords accepted)) with
      | error fault => simp [hw] at h
      | ok written =>
        cases rejected with
        | some word => simp [hw] at h
        | none =>
          have whole := (beforeLineBreak_snd_eq_none_iff words).mp (by rw [hb])
          rw [beforeLineBreak_of_not_mem whole] at hb
          cases hb
          simp only [hw] at h
          cases h
          exact ⟨whole, hw⟩
  · rintro ⟨accepted, hw⟩
    rw [writeWords, beforeLineBreak_of_not_mem accepted]
    simp only [hw]

/-- Words without line feeds are written where a path leads to a file. -/
theorem writeWords_of_locate {files : Files} {path name : String} {words : List String}
    (accepted : ∀ word ∈ words, '\n' ∉ word.toList) (writable : files.locate path = .ok name) :
    writeWords files path words =
      (.ok (), files.insert name (Text.toBytes (textOfWords words))) :=
  writeWords_eq_ok_iff.mpr ⟨accepted, Files.write_eq_ok_iff.mpr ⟨name, writable, rfl⟩⟩

/-! ### Reading -/

/-- The characters of a text of words are those of the words, each with a line feed after it. -/
theorem toList_textOfWords (words : List String) :
    (textOfWords words).toList = words.flatMap fun word => word.toList ++ ['\n'] := by
  rw [textOfWords, String.toList_join, List.flatMap_map]
  simp

private theorem splitLines_append {line : List Char} (h : '\n' ∉ line) (read cs : List Char) :
    splitLines read (line ++ '\n' :: cs) = dropReturn (read.reverse ++ line) :: splitLines [] cs := by
  induction line generalizing read with
  | nil => simp [splitLines]
  | cons c line ih =>
    rw [List.mem_cons, not_or] at h
    rw [List.cons_append, splitLines, if_neg (Ne.symm h.1), ih h.2, List.reverse_cons, List.append_assoc,
      List.singleton_append]

/-- Each word that is written makes one line. -/
theorem splitLines_textOfWords {words : List String} (h : ∀ word ∈ words, '\n' ∉ word.toList) :
    splitLines [] (textOfWords words).toList = words.map fun word => dropReturn word.toList := by
  rw [toList_textOfWords]
  induction words with
  | nil => rfl
  | cons word words ih =>
    obtain ⟨here, h⟩ := List.forall_mem_cons.mp h
    rw [List.flatMap_cons, List.append_assoc, List.singleton_append, splitLines_append here, ih h,
      List.map_cons, List.reverse_nil, List.nil_append]

/-- What is read is what is left of the words, where anything is. -/
theorem mem_wordsOfText_textOfWords {words : List String} (h : ∀ word ∈ words, '\n' ∉ word.toList)
    (w : String) :
    w ∈ wordsOfText (textOfWords words) ↔ w ≠ "" ∧ ∃ word ∈ words, withoutReturns word = w := by
  simp only [wordsOfText, splitLines_textOfWords h, List.mem_map, List.mem_filter, decide_eq_true_eq]
  constructor
  · rintro ⟨_, ⟨⟨_, ⟨word, hw, rfl⟩, rfl⟩, hne⟩, rfl⟩
    exact ⟨mt String.ofList_eq_empty_iff.mp hne, word, hw, rfl⟩
  · rintro ⟨hne, word, hw, rfl⟩
    exact ⟨_, ⟨⟨_, ⟨word, hw, rfl⟩, rfl⟩, mt String.ofList_eq_empty_iff.mpr hne⟩, rfl⟩

/-- The lookup into a file that words have been written to holds the words that are read from it. -/
theorem connect_file_of_writeWords {files files' : Files} {path : String} {words : List String}
    (written : writeWords files path words = (.ok (), files')) (tables : List Table) :
    (⟨tables, files'⟩ : Holdings).connect (.file path) =
      .ok (.snapshot (wordsOfText (textOfWords words))) := by
  simp only [Holdings.connect, Files.readText_of_write (writeWords_eq_ok_iff.mp written).2]

/-! ### What is kept -/

/-- A word that does not end in a carriage return comes back as it was. -/
theorem withoutReturns_of_not_endsInReturn {word : String} (h : ¬ EndsInReturn word) :
    withoutReturns word = word := by
  have kept : dropReturn word.toList = word.toList := if_neg h
  rw [withoutReturns, kept, kept, String.ofList_toList]

/-- A word that ends in a carriage return comes back shorter. -/
theorem length_withoutReturns_lt {word : String} (h : EndsInReturn word) :
    (withoutReturns word).length < word.length := by
  have shorter : ∀ line, (dropReturn line).length ≤ line.length := by
    intro line
    rw [dropReturn]
    split
    · rw [List.length_dropLast]
      omega
    · exact Nat.le_refl _
  have dropped : dropReturn word.toList = word.toList.dropLast := if_pos h
  have nonempty : 0 < word.toList.length := by
    rw [List.length_pos_iff]
    intro hn
    rw [EndsInReturn, hn] at h
    cases h
  have once := shorter word.toList.dropLast
  rw [List.length_dropLast] at once
  rw [withoutReturns, String.length_ofList, dropped, ← String.length_toList]
  omega

/-- What comes back are the words themselves exactly if none ends in a carriage return. -/
theorem forall_withoutReturns_iff (words : List String) :
    (∀ w, (w ≠ "" ∧ ∃ word ∈ words, withoutReturns word = w) ↔ (w ≠ "" ∧ w ∈ words)) ↔
      ∀ word ∈ words, ¬ EndsInReturn word := by
  constructor
  · intro same word hw hr
    -- The longest of the words that end in a carriage return cannot come back from any word.
    obtain ⟨longest, hl, most⟩ :=
      (words.filter (EndsInReturn ·)).toFinset.exists_max_image String.length ⟨word, by simp [hw, hr]⟩
    simp only [List.mem_toFinset, List.mem_filter, decide_eq_true_eq] at hl most
    have nonempty : longest ≠ "" := by
      rintro rfl
      cases hl.2
    obtain ⟨-, source, hs, rfl⟩ := (same longest).mpr ⟨nonempty, hl.1⟩
    by_cases ends : EndsInReturn source
    · exact Nat.not_le.mpr (length_withoutReturns_lt ends) (most source ⟨hs, ends⟩)
    · rw [withoutReturns_of_not_endsInReturn ends] at hl
      exact ends hl.2
  · intro none w
    refine and_congr_right fun _ => ?_
    constructor
    · rintro ⟨word, hw, rfl⟩
      rwa [withoutReturns_of_not_endsInReturn (none word hw)]
    · intro hw
      exact ⟨w, hw, withoutReturns_of_not_endsInReturn (none w hw)⟩

/-- When words have been written to a file, a lookup into the file can be obtained. It holds what is left
of each word without the carriage returns at its end, the empty text apart. So it holds the words that are
not empty, and nothing else, exactly if none of them ends in a carriage return. -/
theorem written_words_kept_iff {files files' : Files} {path : String} {words : List String}
    (written : writeWords files path words = (.ok (), files')) (tables : List Table) :
    let holdings : Holdings := ⟨tables, files'⟩
    ∃ lookup, holdings.connect (.file path) = .ok lookup ∧
      (∀ w, holdings.contains lookup w =
        .ok (decide (w ≠ "" ∧ ∃ word ∈ words, withoutReturns word = w))) ∧
      ((∀ w, holdings.contains lookup w = .ok (decide (w ≠ "" ∧ w ∈ words))) ↔
        ∀ word ∈ words, ¬ EndsInReturn word) := by
  intro holdings
  have accepted := (writeWords_eq_ok_iff.mp written).1
  have holds : ∀ w, holdings.contains (.snapshot (wordsOfText (textOfWords words))) w =
      .ok (decide (w ≠ "" ∧ ∃ word ∈ words, withoutReturns word = w)) := by
    intro w
    simp only [Holdings.contains, List.contains_eq_mem, mem_wordsOfText_textOfWords accepted]
  refine ⟨_, connect_file_of_writeWords written tables, holds, ?_⟩
  rw [← forall_withoutReturns_iff]
  refine forall_congr' fun w => ?_
  rw [holds, Except.ok.injEq, decide_eq_decide]

private theorem locate_words : ({} : Files).locate "words.txt" = .ok "words.txt" :=
  Files.locate_eq_ok_iff.mpr (by decide +kernel)

/-- A carriage return within a word is kept, a word that is listed twice is held as well, and the empty
word is not. -/
theorem written_words_kept_with_inner_return :
    let words := ["f\roo", "", "the", "the"]
    ∃ files', writeWords {} "words.txt" words = (.ok (), files') ∧
      ∃ lookup, (⟨[], files'⟩ : Holdings).connect (.file "words.txt") = .ok lookup ∧
        (∀ word ∈ words, ¬ EndsInReturn word) ∧
        ∀ w, (⟨[], files'⟩ : Holdings).contains lookup w = .ok (decide (w ≠ "" ∧ w ∈ words)) := by
  intro words
  have written : writeWords {} "words.txt" words = _ := writeWords_of_locate (by decide) locate_words
  have inner : ∀ word ∈ words, ¬ EndsInReturn word := by decide
  obtain ⟨lookup, connected, -, kept⟩ := written_words_kept_iff written []
  exact ⟨_, written, lookup, connected, inner, kept.mpr inner⟩

/-- A word that ends in a carriage return is lost, and one that was not listed is found instead. -/
theorem final_return_lost :
    ∃ files', writeWords {} "words.txt" ["foo\r"] = (.ok (), files') ∧
      ∃ lookup, (⟨[], files'⟩ : Holdings).connect (.file "words.txt") = .ok lookup ∧
        (⟨[], files'⟩ : Holdings).contains lookup "foo\r" = .ok false ∧
        (⟨[], files'⟩ : Holdings).contains lookup "foo" = .ok true := by
  have written : writeWords {} "words.txt" ["foo\r"] = _ :=
    writeWords_of_locate (by decide) locate_words
  have connected := connect_file_of_writeWords written []
  have read : wordsOfText (textOfWords ["foo\r"]) = ["foo"] := by decide +kernel
  rw [read] at connected
  exact ⟨_, written, _, connected, by rfl, by rfl⟩

end TextAnalysis.StopWords
