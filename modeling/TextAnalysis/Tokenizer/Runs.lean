import TextAnalysis.Token.Sink

/-!
# Runs of characters

A text is cut into runs. A run begins with a character that may begin one and goes on as long as the
characters may continue it; what lies between two runs belongs to no token. Each run whose folded
characters leave anything is handed to a sink as a token.
-/

namespace TextAnalysis

/-- Which characters begin and continue a run, and what each becomes in the token. -/
structure RunRule where
  begins : Char → Bool
  continues : Char → Bool
  fold : Char → List Char

/-- A run that is being read: the byte at which it begins and its characters, last one first. -/
structure OpenRun where
  start : Nat
  characters : List Char
deriving Repr, DecidableEq

namespace RunRule

variable {σ : Type}

/-- The text of the token that the characters of a run make. -/
def foldAll (rule : RunRule) (cs : List Char) : List Char := cs.flatMap rule.fold

/-- Hand on the run that ends at byte `stop`, unless nothing is left of it. -/
def close (rule : RunRule) (sink : Sink σ) (run : OpenRun) (stop : Nat) (s : σ) :
    Except Error Flow × σ :=
  let folded := rule.foldAll run.characters.reverse
  if folded = [] then (.ok .proceed, s)
  else sink { text := String.ofList folded, start := run.start, stop } s

/-- Read the characters that begin at byte `offset`, with the run that is open there. -/
def scan (rule : RunRule) (sink : Sink σ) (offset : Nat) :
    Option OpenRun → List Char → σ → Except Error Flow × σ
  | none, [], s => (.ok .proceed, s)
  | some run, [], s => rule.close sink run offset s
  | none, c :: cs, s =>
    scan rule sink (offset + c.utf8Size)
      (if rule.begins c then some ⟨offset, [c]⟩ else none) cs s
  | some run, c :: cs, s =>
    if rule.continues c then
      scan rule sink (offset + c.utf8Size) (some { run with characters := c :: run.characters }) cs s
    else
      match rule.close sink run offset s with
      | (.ok .proceed, s) => scan rule sink (offset + c.utf8Size) none cs s
      | (answer, s) => (answer, s)

/-- Hand the tokens of a text to a sink. -/
def tokenize (rule : RunRule) (sink : Sink σ) (text : String) (s : σ) : Except Error Flow × σ :=
  rule.scan sink 0 none text.toList s

end RunRule

end TextAnalysis
