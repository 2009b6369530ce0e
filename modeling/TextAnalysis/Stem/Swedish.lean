import TextAnalysis.Stem.Rule

/-!
# Swedish stemming

Every suffix is taken from R1, which leaves at least three letters before it.
-/

namespace TextAnalysis.Stem.Swedish

open Rule

/-- The vowels. -/
def vowel : Char → Bool := oneOf "aeiouyäåö"

/-- The suffix longest among those in R1. -/
def inRegion (t : Table Rule) : Rule := chooseWithin Regions.r1 t

/-- Take off the main ending; a lone `s` only after a letter that can stand before it. -/
def ending : Rule :=
  inRegion <| Table.ofGroups
    [(["a", "arna", "erna", "heterna", "orna", "ad", "e", "ade", "ande", "arne", "are", "aste",
       "en", "anden", "aren", "heten", "ern", "ar", "er", "heter", "or", "as", "arnas", "ernas",
       "ornas", "es", "ades", "andes", "ens", "arens", "hetens", "erns", "at", "andet", "het",
       "ast"], delete),
     (["s"], after (oneOf "bcdfghjklmnoprtvy") delete)]

/-- Take the last letter off a pair of consonants. -/
def consonantPair : Rule := fun r w =>
  inRegion
    (Table.ofGroups [(["dd", "gd", "nn", "dt", "gt", "kt", "tt"], fun _ _ => some w.tail)]) r w

/-- Take off or shorten an ending that makes an adjective or a noun. -/
def derivation : Rule :=
  inRegion <| Table.ofGroups
    [(["lig", "ig", "els"], delete),
     (["löst"], replace "lös"),
     (["fullt"], replace "full")]

/-- The Swedish stem of a word. -/
def stem (word : List Char) : List Char :=
  reduceBy [ending, consonantPair, derivation] (Regions.ofSyllables vowel 3 word) word

end TextAnalysis.Stem.Swedish
