import TextAnalysis.StopWords.File
import TextAnalysis.StopWords.Oracle

/-!
# Stop-word stores

A store is a table in memory, which may be missing, or a file. A lookup into a table sees what
happens to the table later; a lookup into a file holds the words that the file had when the lookup
was obtained.
-/

namespace TextAnalysis.StopWords

/-- The English stop words that are used unless there are others. -/
def englishWords : List String :=
  ["a", "an", "and", "are", "as", "at", "be", "but", "by", "for", "if", "in", "into", "is", "it",
   "no", "not", "of", "on", "or", "such", "that", "the", "their", "then", "there", "these",
   "they", "this", "to", "was", "will", "with"]

/-- A table of stop words: each word once, or no table at all. -/
structure Table where
  words? : Option (List String) := none
deriving Repr, DecidableEq

namespace Table

/-- The missing table. -/
def missing : Table := {}

/-- The table of the given words. -/
def ofWords (words : List String) : Table := ⟨some words.eraseDups⟩

/-- The table of the English stop words. -/
def english : Table := ofWords englishWords

/-- The table with a word more. A missing table comes into being. -/
def insert (t : Table) (word : String) : Table := ⟨some ((t.words?.getD []).insert word)⟩

/-- Whether there is a table. -/
def present (t : Table) : Bool := t.words?.isSome

/-- The number of words. -/
def size (t : Table) : Nat := (t.words?.getD []).length

/-- Whether there is no word. -/
def isEmpty (t : Table) : Bool := t.size = 0

/-- Obtain a lookup, which takes a table. -/
def connect (t : Table) : Except Error Unit :=
  if t.present then .ok () else .error (.stopWordLookup "stop word table does not exist")

/-- Look up a word exactly. -/
def contains (t : Table) (word : String) : Except Error Bool :=
  match t.words? with
  | some words => .ok (words.contains word)
  | none => .error (.stopWordLookup "stop word table was dropped")

end Table

/-- A stop-word store: the table with the given number, or the file at a path. -/
inductive Store where
  | memory (table : Nat)
  | file (path : String)
deriving Repr, DecidableEq

/-- A lookup: into the table with the given number, or into words that were read. -/
inductive Lookup where
  | table (table : Nat)
  | snapshot (words : List String)
deriving Repr, DecidableEq

/-- What stores consist of: tables by number, and files. -/
structure Holdings where
  tables : List Table := []
  files : Files := {}
deriving Repr, DecidableEq

namespace Holdings

/-- The table with the given number. -/
def table (h : Holdings) (n : Nat) : Table := h.tables.getD n .missing

/-- Obtain a lookup into a store. -/
def connect (h : Holdings) : Store → Except Error Lookup
  | .memory n =>
    match (h.table n).connect with
    | .ok () => .ok (.table n)
    | .error e => .error e
  | .file path =>
    match h.files.readText path with
    | .ok text => .ok (.snapshot (wordsOfText text))
    | .error fault => .error (.stopWordLookup (path ++ ": " ++ fault.message))

/-- Look up a word. -/
def contains (h : Holdings) : Lookup → String → Except Error Bool
  | .table n, word => (h.table n).contains word
  | .snapshot words, word => .ok (words.contains word)

/-- Consulting stores leaves the state alone. -/
def access (h : Holdings) {σ : Type} : Access Store Lookup σ where
  connect store s := (h.connect store, s)
  contains lookup word s := (h.contains lookup word, s)

/-- The holdings with a table more, and its number. -/
def addTable (h : Holdings) (t : Table) : Nat × Holdings :=
  (h.tables.length, { h with tables := h.tables ++ [t] })

/-- The holdings with the table of a number changed. -/
def setTable (h : Holdings) (n : Nat) (t : Table) : Holdings :=
  { h with tables := h.tables.set n t }

end Holdings

end TextAnalysis.StopWords
