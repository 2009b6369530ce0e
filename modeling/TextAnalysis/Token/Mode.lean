/-!
# Modes

The reasons for which a text is tokenized. Reasons may be combined: a prefix query is both a query
and a prefix.
-/

namespace TextAnalysis

/-- A combination of reasons for tokenizing a text: as a search query, as a term of which only a
prefix is given, as a document to be indexed, or for an auxiliary function. -/
structure Mode where
  query : Bool := false
  partialTerm : Bool := false
  document : Bool := false
  auxiliary : Bool := false
deriving Repr, DecidableEq

namespace Mode

/-- Tokenizing a search query. -/
def forQuery : Mode := { query := true }

/-- Tokenizing a term of which only a prefix is given. -/
def forPrefix : Mode := { partialTerm := true }

/-- Tokenizing a document. -/
def forDocument : Mode := { document := true }

/-- Tokenizing for an auxiliary function. -/
def forAuxiliary : Mode := { auxiliary := true }

/-- All reasons of both modes. -/
def union (m n : Mode) : Mode :=
  { query := m.query || n.query
    partialTerm := m.partialTerm || n.partialTerm
    document := m.document || n.document
    auxiliary := m.auxiliary || n.auxiliary }

/-- Whether `m` has every reason of `n`. -/
def contains (m n : Mode) : Bool := m.union n = m

/-- The mode as a bit set. -/
def bits (m : Mode) : Nat :=
  m.query.toNat + 2 * m.partialTerm.toNat + 4 * m.document.toNat + 8 * m.auxiliary.toNat

end Mode

end TextAnalysis
