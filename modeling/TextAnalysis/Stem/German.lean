import TextAnalysis.Stem.Rule

/-!
# German stemming

A `u` or `y` between vowels counts as a consonant and is written as a capital while the rules run.
R1 leaves at least three letters before it.
-/

namespace TextAnalysis.Stem.German

open Rule

/-- The vowels. -/
def vowel : Char → Bool := oneOf "aeiouyäöü"

/-- Write `ß` as `ss`, and mark `u` and `y` between vowels. -/
def prepare (word : List Char) : List Char :=
  let plain := word.flatMap fun c => if c = 'ß' then ['s', 's'] else [c]
  markAfterVowel vowel [('u', 'U', true), ('y', 'Y', true)] false plain

/-- Take off an inflection, and one `s` of `niss` that it leaves. -/
def inflection : Rule :=
  choose <| Table.ofGroups
    [(["em", "ern", "er"], inR1 delete),
     (["e", "en", "es"], inR1 (delete.thenTry (suffix "s" (onlyAfter ["nis"] delete)))),
     (["s"], inR1 (after (oneOf "bdfghklmnrt") delete))]

/-- Take off a comparison or an ending of the verb. -/
def comparison : Rule :=
  choose <| Table.ofGroups
    [(["en", "er", "est"], inR1 delete),
     (["st"], inR1 (after (oneOf "bdfghklmnt") fun _ rest =>
       if 4 ≤ rest.length then some rest else none))]

/-- Take off an ending that makes a noun or an adjective. -/
def derivation : Rule :=
  choose <| Table.ofGroups
    [(["end", "ung"],
        inR2 (delete.thenTry (suffix "ig" (unlessAfter ["e"] (inR2 delete))))),
     (["ig", "ik", "isch"], inR2 (unlessAfter ["e"] delete)),
     (["lich", "heit"],
        inR2 (delete.thenTry ((suffix "er" (inR1 delete)).orElse (suffix "en" (inR1 delete))))),
     (["keit"],
        inR2 (delete.thenTry (choose (Table.ofGroups [(["lich", "ig"], inR2 delete)]))))]

/-- Write the marked letters small again and take the dots off the vowels. -/
def finish : List Char → List Char :=
  respell [('Y', 'y'), ('U', 'u'), ('ä', 'a'), ('ö', 'o'), ('ü', 'u')]

/-- The German stem of a word. -/
def stem (word : List Char) : List Char :=
  let prepared := prepare word
  finish (reduceBy [inflection, comparison, derivation]
    (Regions.ofSyllables vowel 3 prepared) prepared)

end TextAnalysis.Stem.German
