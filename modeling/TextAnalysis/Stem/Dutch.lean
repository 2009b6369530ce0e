import TextAnalysis.Stem.Rule

/-!
# Dutch stemming

Accents other than the grave are dropped first. A consonant `y`, and an `i` between vowels, are
written as capitals while the rules run. R1 leaves at least three bytes of UTF-8 before it.
-/

namespace TextAnalysis.Stem.Dutch

open Rule

/-- The vowels. -/
def vowel : Char → Bool := oneOf "aeiouyè"

/-- Drop accents, and mark the consonants `y` and `i`. -/
def prepare (word : List Char) : List Char :=
  let plain := respell
    [('ä', 'a'), ('á', 'a'), ('ë', 'e'), ('é', 'e'), ('ï', 'i'), ('í', 'i'), ('ö', 'o'),
     ('ó', 'o'), ('ü', 'u'), ('ú', 'u')] word
  let mark := markAfterVowel vowel [('i', 'I', true), ('y', 'Y', false)] false
  match plain with
  | 'y' :: cs => 'Y' :: mark cs
  | cs => mark cs

/-- The number of letters that hold the first `n` bytes of a word. -/
def lettersOf : Nat → List Char → Nat
  | 0, _ => 0
  | n + 1, [] => n + 1
  | n + 1, c :: cs => lettersOf (n + 1 - c.utf8Size) cs + 1

/-- The regions of a prepared word. -/
def regions (word : List Char) : Regions :=
  let r := Regions.ofSyllables vowel 0 word
  { r with r1 := max r.r1 (lettersOf 3 word) }

/-- Write a final double `k`, `d` or `t` once. -/
def undouble : Rule := onlyAfter ["kk", "dd", "tt"] dropLast

/-- Take off a final `e` after a consonant. -/
def finalE : Rule :=
  suffix "e" (inR1 (after (fun c => !vowel c) (delete.thenTry undouble)))

/-- Take off `en` after a consonant, unless it follows `gem`. -/
def afterEn : Rule :=
  inR1 (after (fun c => !vowel c) (unlessAfter ["gem"] (delete.thenTry undouble)))

/-- Take off an inflection. -/
def inflection : Rule :=
  choose <| Table.ofGroups
    [(["heden"], inR1 (replace "heid")),
     (["en", "ene"], afterEn),
     (["s", "se"], inR1 (after (fun c => !vowel c && c != 'j') delete))]

/-- Take off `heid`, and an `en` that comes before it. -/
def abstractNoun : Rule :=
  suffix "heid" (inR2 (unlessAfter ["c"] (delete.thenTry (suffix "en" afterEn))))

/-- Take off a derivational ending; `bar` only from a word that lost its final `e`. -/
def derivation (lostE : Bool) : Rule :=
  choose <| Table.ofGroups
    [(["end", "ing"],
        inR2 (delete.thenTry
          ((suffix "ig" (inR2 (unlessAfter ["e"] delete))).orElse undouble))),
     (["ig"], inR2 (unlessAfter ["e"] delete)),
     (["lijk"], inR2 (delete.thenTry finalE)),
     (["baar"], inR2 delete),
     (["bar"], if lostE then inR2 delete else keep)]

/-- Write a double vowel between consonants once. -/
def shorten : Rule := fun _ w =>
  match w with
  | c :: u :: v :: d :: rest =>
    if !vowel c ∧ c ≠ 'I' ∧ oneOf "aeou" u ∧ u = v ∧ !vowel d then some (c :: v :: d :: rest)
    else none
  | _ => none

/-- The rules in the order in which a prepared, reversed word passes them. -/
def reduce (r : Regions) (w : List Char) : List Char :=
  let w := inflection.apply r w
  let lostE := (finalE r w).isSome
  inTurn [finalE, abstractNoun, derivation lostE, shorten] r w

/-- The Dutch stem of a word. -/
def stem (word : List Char) : List Char :=
  let prepared := prepare word
  respell [('Y', 'y'), ('I', 'i')] (reduce (regions prepared) prepared.reverse).reverse

end TextAnalysis.Stem.Dutch
