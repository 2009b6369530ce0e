import TextAnalysis.Stem.Rule

/-!
# English stemming

A consonant `y` is written `Y` while the rules run. The regions R1 and R2 each begin after the next
vowel and the consonant that follows it; a few stems fix where R1 begins.
-/

namespace TextAnalysis.Stem.English

open Rule

/-- The vowels; `Y` stands for a consonant. -/
def vowel : Char → Bool := oneOf "aeiouy"

/-- Words that have a stem of their own, or that are left as they are. -/
def irregular : List (String × String) :=
  [("skis", "ski"), ("skies", "sky"), ("dying", "die"), ("lying", "lie"), ("tying", "tie"),
   ("idly", "idl"), ("gently", "gentl"), ("ugly", "ugli"), ("early", "earli"), ("only", "onli"),
   ("singly", "singl"), ("sky", "sky"), ("news", "news"), ("howe", "howe"), ("atlas", "atlas"),
   ("cosmos", "cosmos"), ("bias", "bias"), ("andes", "andes")]

/-- Words that are finished once the plural ending is off. -/
def finished : List String :=
  ["inning", "outing", "canning", "herring", "earring", "proceed", "exceed", "succeed"]

/-- Write a `y` after a vowel as `Y`; `afterVowel` tells whether the letter before is one. -/
def markY (afterVowel : Bool) : List Char → List Char
  | [] => []
  | c :: cs =>
    if c = 'y' ∧ afterVowel then 'Y' :: markY false cs
    else c :: markY (vowel c) cs

/-- Take off an opening apostrophe. -/
def dropApostrophe : List Char → List Char
  | '\x27' :: cs => cs
  | cs => cs

/-- Mark the consonants `y`: the first letter, and any `y` after a vowel. -/
def prepare : List Char → List Char
  | 'y' :: cs => 'Y' :: markY false cs
  | cs => markY false cs

/-- Write every `Y` as `y` again. -/
def unmark (word : List Char) : List Char :=
  word.map fun c => if c = 'Y' then 'y' else c

/-- What follows the beginnings that fix where R1 starts. -/
def pastFixedStart? (word : List Char) : Option (List Char) :=
  ["gener", "commun", "arsen"].findSome? fun s => dropInitial? s.toList word

/-- The regions of a prepared word. -/
def regions (word : List Char) : Regions :=
  let rest1 := (pastFixedStart? word).or (pastSyllable? vowel word)
  let rest2 := rest1.bind (pastSyllable? vowel)
  { rv := 0, r1 := startOf word.length rest1, r2 := startOf word.length rest2 }

/-- Whether a reversed word ends in a short syllable. -/
def endsShort : List Char → Bool
  | c :: v :: b :: _ => !oneOf "aeiouywxY" c && vowel v && !vowel b
  | [c, v] => !vowel c && vowel v
  | _ => false

/-- Apply `a` where a vowel stands somewhere before the suffix. -/
def afterSomeVowel (a : Rule) : Rule := fun r w => if w.any vowel then a r w else none

/-- Take off a possessive ending. -/
def possessive : Rule :=
  choose <| Table.ofGroups [(["\x27", "\x27s", "\x27s\x27"], delete)]

/-- Take off a plural ending. -/
def plural : Rule :=
  choose <| Table.ofGroups
    [(["sses"], replace "ss"),
     (["ied", "ies"], fun r w => (if 2 ≤ w.length then replace "i" else replace "ie") r w),
     (["s"], fun r w => afterSomeVowel (fun _ _ => some w) r w.tail),
     (["us", "ss"], keep)]

/-- Restore the stem after the ending of a past form or participle went off. -/
def repair : Rule := fun r w =>
  if ["at", "bl", "iz"].any fun s => (strip? s w).isSome then some (append "e" w)
  else match w with
    | c :: d :: rest =>
      if c = d ∧ oneOf "bdfgmnprt" c then some (d :: rest)
      else if w.length = r.r1 ∧ endsShort w then some (append "e" w) else none
    | _ => if w.length = r.r1 ∧ endsShort w then some (append "e" w) else none

/-- Take off the ending of a past form or participle. -/
def participle : Rule :=
  choose <| Table.ofGroups
    [(["eed", "eedly"], inR1 (replace "ee")),
     (["ed", "edly", "ing", "ingly"], afterSomeVowel (delete.thenTry repair))]

/-- A final `y` after a consonant that is not the first letter becomes `i`. -/
def finalY : Rule := fun _ w =>
  match w with
  | c :: d :: e :: rest =>
    if (c = 'y' ∨ c = 'Y') ∧ !vowel d then some ('i' :: d :: e :: rest) else none
  | _ => none

/-- Shorten a double suffix in R1. -/
def doubleSuffix : Rule :=
  choose <| Table.ofGroups
    [(["tional"], inR1 (replace "tion")),
     (["enci"], inR1 (replace "ence")),
     (["anci"], inR1 (replace "ance")),
     (["abli"], inR1 (replace "able")),
     (["entli"], inR1 (replace "ent")),
     (["izer", "ization"], inR1 (replace "ize")),
     (["ational", "ation", "ator"], inR1 (replace "ate")),
     (["alism", "aliti", "alli"], inR1 (replace "al")),
     (["fulness"], inR1 (replace "ful")),
     (["ousli", "ousness"], inR1 (replace "ous")),
     (["iveness", "iviti"], inR1 (replace "ive")),
     (["biliti", "bli"], inR1 (replace "ble")),
     (["ogi"], inR1 (after (· = 'l') (replace "og"))),
     (["fulli"], inR1 (replace "ful")),
     (["lessli"], inR1 (replace "less")),
     (["li"], inR1 (after (oneOf "cdeghkmnrt") delete))]

/-- Shorten a further suffix in R1. -/
def furtherSuffix : Rule :=
  choose <| Table.ofGroups
    [(["tional"], inR1 (replace "tion")),
     (["ational"], inR1 (replace "ate")),
     (["alize"], inR1 (replace "al")),
     (["icate", "iciti", "ical"], inR1 (replace "ic")),
     (["ful", "ness"], inR1 delete),
     (["ative"], inR1 (inR2 delete))]

/-- Take off a suffix in R2. -/
def longSuffix : Rule :=
  choose <| Table.ofGroups
    [(["al", "ance", "ence", "er", "ic", "able", "ible", "ant", "ement", "ment", "ent", "ism",
       "ate", "iti", "ous", "ive", "ize"], inR2 delete),
     (["ion"], inR2 (after (oneOf "st") delete))]

/-- Take off a final `e`, or one `l` of two. -/
def finalLetter : Rule := fun r w =>
  match w with
  | 'e' :: rest =>
    if r.r2 ≤ rest.length ∨ (r.r1 ≤ rest.length ∧ !endsShort rest) then some rest else none
  | 'l' :: 'l' :: rest => if r.r2 ≤ rest.length + 1 then some ('l' :: rest) else none
  | _ => none

/-- The rules in the order in which a prepared, reversed word passes them. -/
def reduce (r : Regions) (w : List Char) : List Char :=
  let w := plural.apply r (possessive.apply r w)
  if finished.contains (String.ofList w.reverse) then w
  else
    inTurn [participle, finalY, doubleSuffix, furtherSuffix, longSuffix, finalLetter] r w

/-- The English stem of a word. Words of fewer than three letters are left as they are. -/
def stem (word : List Char) : List Char :=
  match irregular.lookup (String.ofList word) with
  | some s => s.toList
  | none =>
    if word.length < 3 then word
    else
      let bare := dropApostrophe word
      let prepared := prepare bare
      let reduced := (reduce (regions prepared) prepared.reverse).reverse
      if prepared = bare then reduced else unmark reduced

end TextAnalysis.Stem.English
