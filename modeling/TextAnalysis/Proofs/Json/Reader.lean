import TextAnalysis.Json.Reader
import TextAnalysis.Json.Value
import TextAnalysis.Proofs.Json.Quoted
import TextAnalysis.Proofs.Text.Numeral

/-!
# What is written in JSON is read back

A reader takes in a written value with the space before it, and gives back what comes after it. That
is so of texts, truth values and counts, and of lists of what can be read.
-/

namespace TextAnalysis.Json

/-- Nothing but space. -/
def IsSpace (cs : List Char) : Prop := ∀ c ∈ cs, isSpace c = true

/-- A number does not go on here: what follows is no digit, no fraction and no exponent. -/
def EndsNumber (rest : List Char) : Prop :=
  ∀ c, rest.head? = some c → c.isDigit = false ∧ c ≠ '.' ∧ c ≠ 'e' ∧ c ≠ 'E'

/-- The reader takes in what is written, with space before it, as the value `a`. -/
def Reads {α : Type} (reader : Reader α) (written : List Char) (a : α) : Prop :=
  ∀ space rest, IsSpace space → EndsNumber rest → reader (space ++ (written ++ rest)) = .ok (a, rest)

/-! ### Space -/

/-- A new line and its indentation are space. -/
theorem isSpace_newLine (depth : Nat) : IsSpace (Value.newLine depth) := by
  intro c hc
  obtain rfl | hc := List.mem_cons.mp hc
  · rfl
  · rw [List.eq_of_mem_replicate hc]
    rfl

/-- Where there is no space, none is passed over. -/
theorem skipSpace_cons {c : Char} (hc : isSpace c = false) (cs : List Char) :
    skipSpace (c :: cs) = c :: cs := by
  rw [skipSpace, List.dropWhile_cons_of_neg (by simp [hc])]

/-- Space before something else is passed over. -/
theorem skipSpace_append_cons {space : List Char} (h : IsSpace space) {c : Char} (hc : isSpace c = false)
    (cs : List Char) : skipSpace (space ++ c :: cs) = c :: cs := by
  rw [skipSpace, List.dropWhile_append_of_pos h, ← skipSpace, skipSpace_cons hc]

/-- A number ends before the punctuation of lists and records. -/
theorem endsNumber_cons {c : Char} (hc : c = ',' ∨ c = ']' ∨ c = '\x7d') (rest : List Char) :
    EndsNumber (c :: rest) := by
  rintro _ ⟨⟩
  obtain rfl | rfl | rfl := hc <;> decide

/-- A number ends before space with such punctuation after it. -/
theorem endsNumber_append_cons {space : List Char} (h : IsSpace space) {c : Char}
    (hc : c = ',' ∨ c = ']' ∨ c = '\x7d') (rest : List Char) : EndsNumber (space ++ c :: rest) := by
  cases space with
  | nil => exact endsNumber_cons hc rest
  | cons first space =>
    rintro _ ⟨⟩
    have hs : isSpace first = true := h first List.mem_cons_self
    simp only [isSpace, Bool.or_eq_true, decide_eq_true_eq] at hs
    obtain ((rfl | rfl) | rfl) | rfl := hs <;> decide

/-! ### Scalars -/

/-- A text is read back. -/
theorem reads_text (s : String) : Reads readText (writeString s) s := by
  intro space rest hs _
  obtain ⟨body, hw, hr⟩ := readString_writeString s rest
  rw [hw, List.cons_append, readText, skipSpace_append_cons hs rfl]
  exact hr

private theorem readLiteral_append (letters rest : List Char) :
    readLiteral letters (letters ++ rest) = .ok rest := by
  induction letters with
  | nil => rfl
  | cons l letters ih => rw [List.cons_append, readLiteral, if_pos rfl, ih]

/-- A truth value is read back. -/
theorem reads_flag (b : Bool) : Reads readFlag (Value.flagChars b) b := by
  intro space rest hs _
  cases b with
  | false =>
    change readFlag (space ++ 'f' :: (['a', 'l', 's', 'e'] ++ rest)) = _
    rw [readFlag, skipSpace_append_cons hs rfl]
    simp only [readLiteral_append, Except.map]
  | true =>
    change readFlag (space ++ 't' :: (['r', 'u', 'e'] ++ rest)) = _
    rw [readFlag, skipSpace_append_cons hs rfl]
    simp only [readLiteral_append, Except.map]

private theorem takeWhile_dropWhile_toDigits (n : Nat) {rest : List Char} (h : EndsNumber rest) :
    (Nat.toDigits 10 n ++ rest).takeWhile Char.isDigit = Nat.toDigits 10 n ∧
      (Nat.toDigits 10 n ++ rest).dropWhile Char.isDigit = rest := by
  have digits : ∀ c ∈ Nat.toDigits 10 n, c.isDigit = true := fun _ => Text.isDigit_of_mem_toDigits
  rw [List.takeWhile_append_of_pos digits, List.dropWhile_append_of_pos digits]
  cases rest with
  | nil => simp
  | cons c rest => simp [(h c rfl).1]

private theorem readIntegerPart_toDigits (n : Nat) {rest : List Char} (h : EndsNumber rest) :
    readIntegerPart true (Nat.toDigits 10 n ++ rest) = .ok (Nat.toDigits 10 n, rest) := by
  unfold readIntegerPart
  split
  · next tail heq =>
    -- Only zero has a zero in front, and then no digit comes after it.
    have lead := congrArg List.head? heq
    rw [List.head?_append, Option.or_of_isSome (by simp [Nat.toDigits_ne_nil])] at lead
    obtain rfl := Text.eq_zero_of_head?_toDigits lead
    obtain rfl : rest = tail := (List.cons.inj heq).2
    have stop : (rest.head?.map Char.isDigit).getD false = false := by
      cases rest with
      | nil => rfl
      | cons c rest => exact (h c rfl).1
    rw [stop]
    rfl
  · obtain ⟨ht, hd⟩ := takeWhile_dropWhile_toDigits n h
    rw [readDigits, ht, hd]
    split
    · next hn => exact absurd hn Nat.toDigits_ne_nil
    · rfl

private theorem readFraction_of_endsNumber {rest : List Char} (h : EndsNumber rest) :
    readFraction true rest = .ok ([], rest) := by
  unfold readFraction
  split
  · exact absurd rfl (h '.' rfl).2.1
  · rfl

private theorem readExponent_of_endsNumber {rest : List Char} (h : EndsNumber rest) :
    readExponent true rest = .ok (none, rest) := by
  cases rest with
  | nil => rfl
  | cons c rest =>
    obtain ⟨-, -, small, capital⟩ := h c rfl
    simp only [readExponent, if_neg (not_or.mpr ⟨small, capital⟩)]

/-- A count is read back if it fits in 64 bits. -/
theorem reads_count {n : Nat} (hn : n < Text.countLimit) : Reads readCount (Nat.toDigits 10 n) n := by
  intro space rest hs hr
  obtain ⟨d, ds, hd⟩ : ∃ d ds, Nat.toDigits 10 n = d :: ds :=
    List.exists_cons_of_ne_nil Nat.toDigits_ne_nil
  have digit : d.isDigit = true := Text.isDigit_of_mem_toDigits (n := n) (by simp [hd])
  have notSpace : isSpace d = false := by
    rw [Bool.eq_false_iff]
    intro hsp
    simp only [isSpace, Bool.or_eq_true, decide_eq_true_eq] at hsp
    obtain ((rfl | rfl) | rfl) | rfl := hsp <;> cases digit
  have numeral : readNumeral true false (Nat.toDigits 10 n ++ rest) =
      .ok (⟨false, n, 0, true⟩, rest) := by
    rw [readNumeral, readIntegerPart_toDigits n hr]
    simp only [readFraction_of_endsNumber hr, readExponent_of_endsNumber hr, List.append_nil,
      Text.digitsValue?_toDigits]
    rfl
  have short : (Nat.toDigits 10 n).length ≤ 20 := by
    rw [Nat.length_toDigits_le_iff (by decide) (by decide)]
    exact Nat.lt_trans hn (by decide)
  have fits : Numeral.isTooLarge ⟨false, n, 0, true⟩ = false := by
    rw [Numeral.isTooLarge, if_pos]
    right
    change ((Nat.toDigits 10 n).length : Int) + 0 < 309
    omega
  have count : Numeral.count? ⟨false, n, 0, true⟩ = some n := if_pos ⟨rfl, rfl, hn⟩
  have number : readNumber false (Nat.toDigits 10 n ++ rest) = .ok (⟨false, n, 0, true⟩, rest) := by
    rw [readNumber, numeral]
    simp only [fits, Bool.false_eq_true, if_false]
  rw [hd, List.cons_append] at number ⊢
  rw [readCount, skipSpace_append_cons hs notSpace]
  simp only [if_pos digit, number, count]

/-! ### Blocks -/

/-- Pieces with separators between them are the first piece and the others, each with a separator before
it. -/
theorem Value.join_cons (separator piece : List Char) (pieces : List (List Char)) :
    join separator (piece :: pieces) = piece ++ pieces.flatMap (separator ++ ·) := by
  induction pieces generalizing piece with
  | nil => simp [join]
  | cons next pieces ih =>
    rw [join, List.intercalate_cons_cons, ← join, ih, List.flatMap_cons, List.append_assoc,
      List.append_assoc]

/-- What is written after the first piece of a block: the other pieces, each after a comma on a new line,
then the end of the block, then what follows. -/
def afterPiece (depth : Nat) (closing : Char) (pieces : List (List Char)) (rest : List Char) :
    List Char :=
  pieces.flatMap ((',' :: Value.newLine (depth + 1)) ++ ·) ++ (Value.newLine depth ++ closing :: rest)

/-- A block that is not empty is its first piece on a new line and what comes after it. -/
theorem Value.block_cons (opening closing : Char) (depth : Nat) (piece : List Char)
    (pieces : List (List Char)) (rest : List Char) :
    block opening closing depth (piece :: pieces) ++ rest =
      opening :: (newLine (depth + 1) ++ (piece ++ afterPiece depth closing pieces rest)) := by
  rw [block, if_neg (List.cons_ne_nil _ _), join_cons, afterPiece]
  simp only [List.cons_append, List.append_assoc, List.nil_append]

/-- Each further piece comes after a comma. -/
theorem afterPiece_cons (depth : Nat) (closing : Char) (piece : List Char) (pieces : List (List Char))
    (rest : List Char) :
    afterPiece depth closing (piece :: pieces) rest =
      ',' :: (Value.newLine (depth + 1) ++ (piece ++ afterPiece depth closing pieces rest)) := by
  simp only [afterPiece, List.flatMap_cons, List.cons_append, List.append_assoc]

/-- A number ends at the end of a piece. -/
theorem endsNumber_afterPiece (depth : Nat) {closing : Char} (hc : closing = ']' ∨ closing = '\x7d')
    (pieces : List (List Char)) (rest : List Char) :
    EndsNumber (afterPiece depth closing pieces rest) := by
  cases pieces with
  | nil => exact endsNumber_append_cons (isSpace_newLine depth) (.inr hc) rest
  | cons piece pieces =>
    rw [afterPiece_cons]
    exact endsNumber_cons (.inl rfl) _

/-- There is room for the further pieces in what is written. -/
theorem length_lt_afterPiece (depth : Nat) (closing : Char) (pieces : List (List Char))
    (rest : List Char) : pieces.length < (afterPiece depth closing pieces rest).length := by
  induction pieces with
  | nil => simp [afterPiece, Value.newLine]
  | cons piece pieces ih =>
    rw [afterPiece_cons]
    simp only [List.length_cons, List.length_append]
    omega

/-! ### Lists -/

/-- What is written begins as an element of a list may begin. -/
def OpensElement (written : List Char) : Prop :=
  ∃ c cs, written = c :: cs ∧ isSpace c = false ∧ c ≠ ']'

/-- A written text may be an element. -/
theorem opensElement_writeString (s : String) : OpensElement (writeString s) :=
  ⟨'"', _, rfl, rfl, by decide⟩

section List

variable {α : Type} {element : Reader α} {write : α → List Char}

private theorem nextElement_append {written cs : List Char} (opens : OpensElement written) (depth : Nat) :
    nextElement true (Value.newLine depth ++ (written ++ cs)) = .ok (true, written ++ cs) ∧
      nextElement false (',' :: (Value.newLine depth ++ (written ++ cs))) = .ok (true, written ++ cs) := by
  obtain ⟨c, tail, rfl, hc, hne⟩ := opens
  have space := isSpace_newLine depth
  have comma := skipSpace_cons (c := ',') rfl
  constructor
  · simp [nextElement, skipSpace_append_cons space hc]
  · simp [nextElement, comma, skipSpace_append_cons space hc, hne]

private theorem readElements_afterPiece (depth : Nat) {as : List α}
    (h : ∀ a ∈ as, Reads element (write a) a ∧ OpensElement (write a)) {fuel : Nat}
    (hf : as.length < fuel) (rest : List Char) :
    readElements element fuel false (afterPiece depth ']' (as.map write) rest) = .ok (as, rest) := by
  induction as generalizing fuel with
  | nil =>
    obtain ⟨fuel, rfl⟩ : ∃ k, fuel = k + 1 := ⟨fuel - 1, by omega⟩
    have space := isSpace_newLine depth
    simp only [List.map_nil, afterPiece, List.flatMap_nil, List.nil_append, readElements, nextElement,
      skipSpace_append_cons space (c := ']') rfl]
    rfl
  | cons a as ih =>
    obtain ⟨⟨reads, opens⟩, h⟩ := List.forall_mem_cons.mp h
    obtain ⟨fuel, rfl⟩ : ∃ k, fuel = k + 1 := ⟨fuel - 1, by omega⟩
    have here := reads [] _ nofun (endsNumber_afterPiece depth (.inl rfl) (as.map write) rest)
    rw [List.nil_append] at here
    rw [List.map_cons, afterPiece_cons, readElements, (nextElement_append opens (depth + 1)).2]
    simp only [here, ih h (Nat.lt_of_succ_lt_succ hf)]

/-- A list that is written item by item is read back. -/
theorem reads_list (depth : Nat) {as : List α}
    (h : ∀ a ∈ as, Reads element (write a) a ∧ OpensElement (write a)) :
    Reads (readList element) (Value.block '[' ']' depth (as.map write)) as := by
  intro space rest hs _
  cases as with
  | nil =>
    rw [List.map_nil, Value.block, if_pos rfl, List.cons_append, readList,
      skipSpace_append_cons hs rfl]
    rfl
  | cons a as =>
    obtain ⟨⟨reads, opens⟩, h⟩ := List.forall_mem_cons.mp h
    have here := reads [] _ nofun (endsNumber_afterPiece depth (.inl rfl) (as.map write) rest)
    have room := length_lt_afterPiece depth ']' (as.map write) rest
    rw [List.nil_append] at here
    rw [List.length_map] at room
    rw [List.map_cons, Value.block_cons, readList, skipSpace_append_cons hs rfl]
    simp only [readElements, (nextElement_append opens (depth + 1)).1, here]
    rw [readElements_afterPiece depth h (by simp only [List.length_append]; omega) rest]

end List

/-! ### Values -/

/-- Items are written one by one. -/
theorem Value.indentedItems_eq_map (depth : Nat) (items : List Value) :
    indentedItems depth items = items.map (indented depth) := by
  induction items with
  | nil => rfl
  | cons v items ih => rw [indentedItems, ih, List.map_cons]

/-- A list of texts is read back. -/
theorem reads_texts (depth : Nat) (texts : List String) :
    Reads (readList readText) ((Value.list (texts.map .text)).indented depth) texts := by
  have written : (Value.list (texts.map .text)).indented depth =
      Value.block '[' ']' depth (texts.map writeString) := by
    rw [Value.indented, Value.indentedItems_eq_map, List.map_map]
    rfl
  rw [written]
  exact reads_list depth fun s _ => ⟨reads_text s, opensElement_writeString s⟩

end TextAnalysis.Json
