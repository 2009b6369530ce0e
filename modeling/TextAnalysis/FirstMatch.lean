import TextAnalysis.Error
import TextAnalysis.Text.Numeral

/-!
# First matches

The column and the offset of the first phrase match in a row. A query asks for both, so the match of
the last row is kept.
-/

namespace TextAnalysis.FirstMatch

/-- A phrase match within a row. -/
structure Instance where
  phrase : Int
  column : Int
  offset : Int
deriving Repr, DecidableEq

/-- Which part of a match is asked for. -/
inductive Field where
  | column
  | offset
deriving Repr, DecidableEq

/-- The part of a match that is asked for. -/
def Field.of : Field → Instance → Int
  | column, m => m.column
  | offset, m => m.offset

/-- The last row that had a match, with its first match. -/
structure Cache where
  entry : Option (Int × Instance) := none
deriving Repr, DecidableEq

namespace Cache

/-- The row whose match is kept. -/
def row? (c : Cache) : Option Int := c.entry.map Prod.fst

/-- The match that is kept for a row. -/
def find? (c : Cache) (row : Int) : Option Instance :=
  match c.entry with
  | some (kept, m) => if kept = row then some m else none
  | none => none

/-- The error of a row without a match. -/
def noMatch (row : Int) : Error :=
  .other ("row " ++ Text.signedDecimal row ++ " has no phrase match")

/-- A part of the first match of a row. The row's own matches are consulted, through `consult`, only if
another row is kept. A failure leaves the cache as it was. -/
def first {σ : Type} (c : Cache) (row : Int) (consult : σ → Except Error (Option Instance) × σ)
    (field : Field) (s : σ) : Except Error Int × Cache × σ :=
  match c.find? row with
  | some m => (.ok (field.of m), c, s)
  | none =>
    match consult s with
    | (.error e, s) => (.error e, c, s)
    | (.ok none, s) => (.error (noMatch row), c, s)
    | (.ok (some m), s) => (.ok (field.of m), ⟨some (row, m)⟩, s)

end Cache

end TextAnalysis.FirstMatch
