import TextAnalysis.Proofs.StopWords.File

/-!
# Lists of stop words that are rejected

A word with a line feed fits on no line, so a list with such a word is rejected. By then the words before it have
taken the place of what the file held.
-/

namespace TextAnalysis.StopWords

/-- Where a word has a line feed, the words before the first such word are accepted, and this word is rejected. -/
theorem exists_beforeLineBreak {words : List String} (breaks : ∃ word ∈ words, '\n' ∈ word.toList) :
    ∃ front word back, words = front ++ word :: back ∧ (∀ w ∈ front, '\n' ∉ w.toList) ∧ '\n' ∈ word.toList ∧
      beforeLineBreak words = (front, some word) := by
  induction words with
  | nil =>
    obtain ⟨_, mem, -⟩ := breaks
    cases mem
  | cons w words ih =>
    by_cases here : '\n' ∈ w.toList
    · refine ⟨[], w, words, rfl, nofun, here, ?_⟩
      rw [beforeLineBreak, if_pos (by simpa using here)]
    · have later : ∃ word ∈ words, '\n' ∈ word.toList := by
        obtain ⟨word, mem, breaks⟩ := breaks
        obtain rfl | mem := List.mem_cons.mp mem
        · exact absurd breaks here
        · exact ⟨word, mem, breaks⟩
      obtain ⟨front, word, back, rfl, accepted, rejected, before⟩ := ih later
      refine ⟨w :: front, word, back, rfl, List.forall_mem_cons.mpr ⟨here, accepted⟩, rejected, ?_⟩
      rw [beforeLineBreak, if_neg (by simpa using here), before]

/-- A list with a word that has a line feed is rejected, and the file holds what it would hold if only the words
before that word had been written. -/
theorem writeWords_of_line_break {files files' : Files} {path : String} {front : List String} {word : String}
    {words : List String} (before : beforeLineBreak words = (front, some word))
    (written : writeWords files path front = (.ok (), files')) :
    writeWords files path words = (.error (lineBreakError word), files') := by
  rw [writeWords, before]
  simp only [(writeWords_eq_ok_iff.mp written).2]

/-- If a list of words has one with a line feed and a path leads to a file, the list is rejected for the first such
word, as a fault of configuration. The file then holds the words before it, one to a line, whatever it held and
whether or not it was there, and no other file is changed. So the file is intact only if it held just these words.
A lookup can be obtained all the same, and finds the words before the rejected one. -/
theorem rejected_words_replace_file {files : Files} {path name : String} (located : files.locate path = .ok name)
    {words : List String} (breaks : ∃ word ∈ words, '\n' ∈ word.toList) (tables : List Table) :
    ∃ front word back files', words = front ++ word :: back ∧ (∀ w ∈ front, '\n' ∉ w.toList) ∧
      '\n' ∈ word.toList ∧ writeWords files path words = (.error (lineBreakError word), files') ∧
      (lineBreakError word).code = .configuration ∧
      files'.find? name = some (Text.toBytes (textOfWords front)) ∧
      (∀ other, other ≠ name → files'.find? other = files.find? other) ∧
      files'.directories = files.directories ∧
      (files'.find? name = files.find? name ↔ files.find? name = some (Text.toBytes (textOfWords front))) ∧
      ∃ lookup, (⟨tables, files'⟩ : Holdings).connect (.file path) = .ok lookup ∧
        ∀ w, (⟨tables, files'⟩ : Holdings).contains lookup w =
          .ok (decide (w ≠ "" ∧ ∃ word ∈ front, withoutReturns word = w)) := by
  obtain ⟨front, word, back, split, accepted, rejected, before⟩ := exists_beforeLineBreak breaks
  have written := writeWords_of_locate accepted located
  have holds := Files.find?_insert files name (Text.toBytes (textOfWords front))
  refine ⟨front, word, back, _, split, accepted, rejected, writeWords_of_line_break before written, rfl, holds,
    fun other ne => Files.find?_insert_of_ne files ne _, rfl, ?_, _, connect_file_of_writeWords written tables, ?_⟩
  · rw [holds, eq_comm]
  · intro w
    simp only [Holdings.contains, List.contains_eq_mem, mem_wordsOfText_textOfWords accepted]

/-- Of three words the second is rejected. A file that was not there holds the first, and a lookup finds it. -/
theorem rejected_words_make_file :
    let words := ["und", "a\nb", "zu"]
    ({} : Files).locate "words.txt" = .ok "words.txt" ∧ (∃ word ∈ words, '\n' ∈ word.toList) ∧
      ∃ files', writeWords {} "words.txt" words = (.error (lineBreakError "a\nb"), files') ∧
        ({} : Files).find? "words.txt" = none ∧ files'.find? "words.txt" = some (Text.toBytes "und\n") ∧
        ∃ lookup, (⟨[], files'⟩ : Holdings).connect (.file "words.txt") = .ok lookup ∧
          (⟨[], files'⟩ : Holdings).contains lookup "und" = .ok true := by
  intro words
  have located : ({} : Files).locate "words.txt" = .ok "words.txt" :=
    Files.locate_eq_ok_iff.mpr (by decide +kernel)
  have breaks : ∃ word ∈ words, '\n' ∈ word.toList := ⟨"a\nb", by decide, by decide⟩
  obtain ⟨front, word, back, files', split, accepted, rejected, written, -, holds, -, -, -, lookup, connected,
    finds⟩ := rejected_words_replace_file located breaks []
  obtain _ | ⟨first, _ | ⟨second, rest⟩⟩ := front
  · obtain rfl : "und" = word := (List.cons.inj split).1
    exact absurd rejected (by decide)
  · obtain ⟨rfl, more⟩ := List.cons.inj split
    obtain rfl : "a\nb" = word := (List.cons.inj more).1
    refine ⟨located, breaks, files', written, rfl, holds, lookup, connected, (finds "und").trans ?_⟩
    decide
  · obtain ⟨-, more⟩ := List.cons.inj split
    obtain rfl : "a\nb" = second := (List.cons.inj more).1
    exact absurd (by decide) (accepted "a\nb" (by simp))

/-- A list whose second word has a line feed is rejected, and its first word stands in the file in the place of
the one that was there. -/
theorem rejected_words_replace_one :
    let files : Files := { entries := [("words.txt", Text.toBytes "the\n")] }
    let rejected := writeWords files "words.txt" ["och", "two\nlines"]
    rejected.1 = .error (lineBreakError "two\nlines") ∧
      files.find? "words.txt" = some (Text.toBytes "the\n") ∧
      rejected.2.find? "words.txt" = some (Text.toBytes "och\n") ∧
      rejected.2.find? "words.txt" ≠ files.find? "words.txt" := by
  decide +kernel

end TextAnalysis.StopWords
