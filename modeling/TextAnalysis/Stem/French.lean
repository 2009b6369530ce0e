import TextAnalysis.Stem.Rule

/-!
# French stemming

The letters `u`, `i` and `y` are written as capitals, while the rules run, where they count as
consonants.
-/

namespace TextAnalysis.Stem.French

open Rule

/-- The vowels. -/
def vowel : Char → Bool := oneOf "aeiouyâàëéêèïîôûù"

/-- Two neighbouring letters, with the first or the second marked where it is a consonant. The
third argument tells whether a vowel follows them. -/
def markPair (c d : Char) (beforeVowel : Bool) : Char × Char :=
  if vowel c && d = 'u' && beforeVowel then (c, 'U')
  else if vowel c && d = 'i' && beforeVowel then (c, 'I')
  else if vowel c && d = 'y' then (c, 'Y')
  else if c = 'y' && vowel d then ('Y', d)
  else if c = 'q' && d = 'u' then (c, 'U')
  else (c, d)

/-- Mark the consonants in a word that begins with `c`. -/
def mark (c : Char) : List Char → List Char
  | [] => [c]
  | d :: rest =>
    let pair := markPair c d ((rest.head?.map vowel).getD false)
    pair.1 :: mark pair.2 rest

/-- Mark the consonants among `u`, `i` and `y`. -/
def prepare : List Char → List Char
  | [] => []
  | c :: cs => mark c cs

/-- What follows the opening of a word: three letters after two vowels or in a few words, and
otherwise all up to the first vowel after the first letter. -/
def pastOpening? : List Char → Option (List Char)
  | [] => none
  | a :: cs =>
    let twoVowels := match cs with
      | b :: _ :: rest => if vowel a && vowel b then some rest else none
      | _ => none
    let fixed := ["par", "col", "tap"].findSome? fun s => dropInitial? s.toList (a :: cs)
    (twoVowels.or fixed).or (past? vowel cs)

/-- The regions of a prepared word. -/
def regions (word : List Char) : Regions :=
  { Regions.ofSyllables vowel 0 word with rv := startOf word.length (pastOpening? word) }

/-- Take off `ic` in R2, or write it `iqU`. -/
def orIqu : Rule := (inR2 delete).orElse (replace "iqU")

/-- Take off or shorten a suffix that makes a noun, an adjective or a participle. -/
def standard : Rule :=
  choose <| Table.ofGroups
    [(["ance", "iqUe", "isme", "able", "iste", "eux", "ances", "iqUes", "ismes", "ables",
       "istes"], inR2 delete),
     (["atrice", "ateur", "ation", "atrices", "ateurs", "ations"],
        inR2 (delete.thenTry (suffix "ic" orIqu))),
     (["logie", "logies"], inR2 (replace "log")),
     (["usion", "ution", "usions", "utions"], inR2 (replace "u")),
     (["ence", "ences"], inR2 (replace "ent")),
     (["ement", "ements"],
        inRV (delete.thenTry (choose (Table.ofGroups
          [(["iv"], inR2 (delete.thenTry (suffix "at" (inR2 delete)))),
           (["eus"], (inR2 delete).orElse (inR1 (replace "eux"))),
           (["abl", "iqU"], inR2 delete),
           (["ièr", "Ièr"], inRV (replace "i"))])))),
     (["ité", "ités"],
        inR2 (delete.thenTry (choose (Table.ofGroups
          [(["abil"], (inR2 delete).orElse (replace "abl")),
           (["ic"], orIqu),
           (["iv"], inR2 delete)])))),
     (["if", "ive", "ifs", "ives"],
        inR2 (delete.thenTry (suffix "at" (inR2 (delete.thenTry (suffix "ic" orIqu)))))),
     (["eaux"], replace "eau"),
     (["aux"], inR1 (replace "al")),
     (["euse", "euses"], (inR2 delete).orElse (inR1 (replace "eux"))),
     (["issement", "issements"], inR1 (after (fun c => !vowel c) delete)),
     (["amment", "emment", "ment", "ments"], keep)]

/-- Take off the ending of an adverb. What it leaves may end in a verb form. -/
def adverb : Rule :=
  choose <| Table.ofGroups
    [(["amment"], inRV (replace "ant")),
     (["emment"], inRV (replace "ent")),
     (["ment", "ments"], fun r w =>
       match w with
       | c :: rest => if vowel c ∧ r.rv ≤ rest.length then some w else none
       | [] => none),
     (["ement", "ements", "issement", "issements"], keep)]

/-- Take an ending of a verb in `-ir` off RV, after a consonant in RV. -/
def verbInI : Rule :=
  confined Regions.rv <| choose <| Table.ofGroups
    [(["îmes", "ît", "îtes", "i", "ie", "ies", "ir", "ira", "irai", "iraIent", "irais", "irait",
       "iras", "irent", "irez", "iriez", "irions", "irons", "iront", "is", "issaIent", "issais",
       "issait", "issant", "issante", "issantes", "issants", "isse", "issent", "isses", "issez",
       "issiez", "issions", "issons", "it"], after (fun c => !vowel c) delete)]

/-- Take an ending of any other verb off RV. -/
def verb : Rule :=
  confined Regions.rv <| choose <| Table.ofGroups
    [(["ions"], inR2 delete),
     (["é", "ée", "ées", "és", "èrent", "er", "era", "erai", "eraIent", "erais", "erait", "eras",
       "erez", "eriez", "erions", "erons", "eront", "ez", "iez"], delete),
     (["âmes", "ât", "âtes", "a", "ai", "aIent", "ais", "ait", "ant", "ante", "antes", "ants",
       "as", "asse", "assent", "asses", "assiez", "assions"],
        delete.thenTry (suffix "e" delete))]

/-- A final `Y` becomes `i`, and a final `ç` becomes `c`. -/
def plainEnd : Rule :=
  choose <| Table.ofGroups [(["Y"], replace "i"), (["ç"], replace "c")]

/-- Take off a plural `s`. -/
def pluralS : Rule := suffix "s" (after (fun c => !oneOf "aiouès" c) delete)

/-- Take a suffix that is left off RV. -/
def residual : Rule :=
  confined Regions.rv <| choose <| Table.ofGroups
    [(["ion"], inR2 (after (oneOf "st") delete)),
     (["ier", "ière", "Ier", "Ière"], replace "i"),
     (["e"], delete),
     (["ë"], onlyAfter ["gu"] delete)]

/-- Write a final double consonant once. -/
def undouble : Rule := onlyAfter ["enn", "onn", "ett", "ell", "eill"] dropLast

/-- Drop the accent of an `e` before the final consonants. -/
def dropAccent : Rule := fun _ w =>
  let consonants := w.takeWhile fun c => !vowel c
  match w.dropWhile fun c => !vowel c with
  | c :: rest =>
    if consonants ≠ [] ∧ (c = 'é' ∨ c = 'è') then some (consonants ++ 'e' :: rest) else none
  | [] => none

/-- The suffix rules of which only the first that applies is used, on a reversed word. -/
def main (r : Regions) (w : List Char) : List Char :=
  let bare := adverb.apply r w
  match (standard r w).or ((verbInI.orElse verb) r bare) with
  | some w' => plainEnd.apply r w'
  | none => inTurn [pluralS, residual] r bare

/-- The French stem of a word. -/
def stem (word : List Char) : List Char :=
  let prepared := prepare word
  let r := regions prepared
  respell [('I', 'i'), ('U', 'u'), ('Y', 'y')]
    (inTurn [undouble, dropAccent] r (main r prepared.reverse)).reverse

end TextAnalysis.Stem.French
