import TextAnalysis.Stem.Rule

/-!
# Danish stemming

Every suffix is taken from R1, which leaves at least three letters before it.
-/

namespace TextAnalysis.Stem.Danish

open Rule

/-- The vowels. -/
def vowel : Char → Bool := oneOf "aeiouyæåø"

/-- The suffix longest among those in R1. -/
def inRegion (t : Table Rule) : Rule := chooseWithin Regions.r1 t

/-- Take off the main ending; a lone `s` only after a letter that can stand before it. -/
def ending : Rule :=
  inRegion <| Table.ofGroups
    [(["hed", "ethed", "ered", "e", "erede", "ende", "erende", "ene", "erne", "ere", "en",
       "heden", "eren", "er", "heder", "erer", "heds", "es", "endes", "erendes", "enes", "ernes",
       "eres", "ens", "hedens", "erens", "ers", "ets", "erets", "et", "eret"], delete),
     (["s"], after (oneOf "abcdfghjklmnoprtvyzå") delete)]

/-- Take the last letter off a pair of consonants. -/
def consonantPair : Rule := fun r w =>
  inRegion (Table.ofGroups [(["gd", "dt", "gt", "kt"], fun _ _ => some w.tail)]) r w

/-- Take `st` off `igst`. -/
def superlative : Rule := suffix "st" (onlyAfter ["ig"] delete)

/-- Take off an ending that makes a noun or an adjective. -/
def derivation : Rule :=
  inRegion <| Table.ofGroups
    [(["ig", "lig", "elig", "els"], delete.thenTry consonantPair),
     (["løst"], replace "løs")]

/-- Write a double consonant in R1 once. -/
def undouble : Rule := fun r w =>
  match w with
  | c :: d :: rest =>
    if !vowel c ∧ c = d ∧ r.r1 ≤ rest.length + 1 then some (d :: rest) else none
  | _ => none

/-- The Danish stem of a word. -/
def stem (word : List Char) : List Char :=
  reduceBy [ending, consonantPair, superlative, derivation, undouble]
    (Regions.ofSyllables vowel 3 word) word

end TextAnalysis.Stem.Danish
