/-!
# Ranges of code points

A character class is a table of closed ranges of code points in ascending order. Only the ranges up
to the code point that is looked for are visited.
-/

namespace TextAnalysis.Text

/-- Closed ranges of code points, in ascending order and apart from each other. -/
abbrev Ranges := List (Nat × Nat)

/-- Whether some range contains the code point `n`. -/
def Ranges.contains : Ranges → Nat → Bool
  | [], _ => false
  | (first, last) :: rest, n =>
    if n < first then false else n ≤ last || Ranges.contains rest n

end TextAnalysis.Text
