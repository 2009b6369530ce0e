import TextAnalysis.Stem.Rule

/-!
# Finnish stemming

Each of the regions R1 and R2 begins after the next vowel and the consonant that follows it. What
stands before a region is out of sight for the conditions on a suffix in it, where this is said.
-/

namespace TextAnalysis.Stem.Finnish

open Rule

/-- The vowels. -/
def vowel : Char → Bool := oneOf "aeiouyäö"

/-- The vowels that can follow an `i` in a diphthong of the plural; `y` is not among them. -/
def pluralVowel : Char → Bool := oneOf "aeiouäö"

/-- The long vowels. -/
def long : List String := ["aa", "ee", "ii", "oo", "uu", "ää", "öö"]

/-- Take off a particle, or the ending of an adverb in R2. -/
def particle : Rule :=
  chooseWithin Regions.r1 <| Table.ofGroups
    [(["kin", "kaan", "kään", "ko", "kö", "han", "hän", "pa", "pä"],
        after (oneOf "aeiouyäönt") delete),
     (["sti"], inR2 delete)]

/-- Take off the ending that names an owner. -/
def possessive : Rule :=
  chooseWithin Regions.r1 <| Table.ofGroups
    [(["si"], unlessAfter ["k"] delete),
     (["ni"], delete.thenTry (suffix "kse" (replace "ksi"))),
     (["nsa", "nsä", "mme", "nne"], delete),
     (["an"], onlyAfter ["ta", "ssa", "sta", "lla", "lta", "na"] delete),
     (["än"], onlyAfter ["tä", "ssä", "stä", "llä", "ltä", "nä"] delete),
     (["en"], onlyAfter ["lle", "ine"] delete)]

/-- Take off the suffix `s` in R1 where a long vowel in R1 comes before it. -/
def afterLong (s : String) : Rule :=
  confined Regions.r1 (suffix s (onlyAfter long delete))

/-- Take off the suffix `s` in R1 where an `i` and a vowel before that, both in R1, come before
it. -/
def afterPluralI (s : String) : Rule :=
  confined Regions.r1 <| suffix s fun _ rest =>
    match rest with
    | 'i' :: v :: _ => if pluralVowel v then some rest else none
    | _ => none

/-- Take off the `n` of a genitive or an illative, with one vowel of a long one or the `e` of
`ie`. -/
def finalN : Rule := fun _ rest =>
  if (long ++ ["ie"]).any fun s => (strip? s rest).isSome then some rest.tail else some rest

/-- The case endings whose conditions stand on the letters before them. -/
def plainCase : Rule :=
  chooseWithin Regions.r1 <| Table.ofGroups
    [(["han"], onlyAfter ["a"] delete),
     (["hen"], onlyAfter ["e"] delete),
     (["hin"], onlyAfter ["i"] delete),
     (["hon"], onlyAfter ["o"] delete),
     (["hän"], onlyAfter ["ä"] delete),
     (["hön"], onlyAfter ["ö"] delete),
     (["n"], finalN),
     (["a", "ä"], fun _ rest =>
       match rest with
       | v :: c :: _ => if vowel v ∧ !vowel c then some rest else none
       | _ => none),
     (["tta", "ttä"], onlyAfter ["e"] delete),
     (["ta", "tä", "ssa", "ssä", "sta", "stä", "lla", "llä", "lta", "ltä", "lle", "na", "nä",
       "ksi", "ine"], delete)]

/-- Take off a case ending. -/
def caseEnding : Rule :=
  ((((afterPluralI "siin").orElse (afterLong "seen")).orElse (afterPluralI "den")).orElse
    (afterPluralI "tten")).orElse plainCase

/-- Take off a comparative, a superlative or the ending of an agent in R2. -/
def comparison : Rule :=
  chooseWithin Regions.r2 <| Table.ofGroups
    [(["mpi", "mpa", "mpä", "mmi", "mma", "mmä"], unlessAfter ["po"] delete),
     (["impi", "impa", "impä", "immi", "imma", "immä", "eja", "ejä"], delete)]

/-- Take the `i` or `j` of the plural off R1. -/
def pluralI : Rule := chooseWithin Regions.r1 <| Table.ofGroups [(["i", "j"], delete)]

/-- Take the `t` of the plural off R1 after a vowel in R1, and a comparative off R2 before it. -/
def pluralT : Rule :=
  (confined Regions.r1 (suffix "t" (after vowel delete))).thenTry <|
    chooseWithin Regions.r2 <| Table.ofGroups
      [(["mma"], unlessAfter ["po"] delete), (["imma"], delete)]

/-- Shorten a final long vowel. -/
def shortenVowel : Rule := onlyAfter long dropLast

/-- Take off a final `a`, `ä`, `e` or `i` after a consonant. -/
def finalVowel : Rule := fun _ w =>
  match w with
  | v :: c :: rest => if oneOf "aäei" v ∧ !vowel c then some (c :: rest) else none
  | _ => none

/-- Tidy the end of R1, with only R1 in sight. -/
def tidy : Rule :=
  confined Regions.r1 fun r w =>
    some (inTurn
      [shortenVowel, finalVowel, suffix "j" (after (oneOf "ou") delete), suffix "o" (onlyAfter ["j"] delete)]
      r w)

/-- Write the last consonant once where it is doubled. -/
def undouble : Rule := fun _ w =>
  match w.dropWhile vowel with
  | c :: d :: rest => if c = d then some (w.takeWhile vowel ++ d :: rest) else none
  | _ => none

/-- The rules in the order in which a reversed word passes them. The `i` of the plural goes where a
case ending went. -/
def reduce (r : Regions) (w : List Char) : List Char :=
  let w := inTurn [particle, possessive] r w
  let hadCase := (caseEnding r w).isSome
  inTurn [caseEnding, comparison, if hadCase then pluralI else pluralT, tidy, undouble] r w

/-- The Finnish stem of a word. -/
def stem (word : List Char) : List Char :=
  (reduce (Regions.ofSyllables vowel 0 word) word.reverse).reverse

end TextAnalysis.Stem.Finnish
