import TextAnalysis.Stem.Rule

/-!
# Norwegian stemming

Every suffix is taken from R1, which leaves at least three letters before it.
-/

namespace TextAnalysis.Stem.Norwegian

open Rule

/-- The vowels. -/
def vowel : Char → Bool := oneOf "aeiouyæåø"

/-- The suffix longest among those in R1. -/
def inRegion (t : Table Rule) : Rule := chooseWithin Regions.r1 t

/-- Whether a lone `s` may be taken off after these letters. -/
def allowsS : List Char → Bool
  | 'k' :: d :: _ => !vowel d
  | c :: _ => oneOf "bcdfghjlmnoprtvyz" c
  | [] => false

/-- Take off the main ending. -/
def ending : Rule :=
  inRegion <| Table.ofGroups
    [(["a", "e", "ede", "ande", "ende", "ane", "ene", "hetene", "en", "heten", "ar", "er", "heter",
       "as", "es", "edes", "endes", "enes", "hetenes", "ens", "hetens", "ers", "ets", "et", "het",
       "ast"], delete),
     (["s"], fun _ rest => if allowsS rest then some rest else none),
     (["erte", "ert"], replace "er")]

/-- Take the last letter off a pair of consonants. -/
def consonantPair : Rule := fun r w =>
  inRegion (Table.ofGroups [(["dt", "vt"], fun _ _ => some w.tail)]) r w

/-- Take off an ending that makes a noun or an adjective. -/
def derivation : Rule :=
  inRegion <| Table.ofGroups
    [(["leg", "eleg", "ig", "eig", "lig", "elig", "els", "lov", "elov", "slov", "hetslov"], delete)]

/-- The Norwegian stem of a word. -/
def stem (word : List Char) : List Char :=
  reduceBy [ending, consonantPair, derivation] (Regions.ofSyllables vowel 3 word) word

end TextAnalysis.Stem.Norwegian
