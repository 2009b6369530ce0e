import TextAnalysis.Stem.Rule

/-!
# Italian stemming

Acute accents are written as grave ones. A `u` after `q`, and `u` and `i` between vowels, are
written as capitals while the rules run.
-/

namespace TextAnalysis.Stem.Italian

open Rule

/-- The vowels. -/
def vowel : Char → Bool := oneOf "aeiouàèìòù"

/-- Write each `u` that follows a `q` as `U`. -/
def markAfterQ : List Char → List Char
  | 'q' :: 'u' :: cs => 'q' :: 'U' :: markAfterQ cs
  | c :: cs => c :: markAfterQ cs
  | [] => []

/-- Unify the accents, and mark the consonants `u` and `i`. -/
def prepare (word : List Char) : List Char :=
  let grave := respell [('á', 'à'), ('é', 'è'), ('í', 'ì'), ('ó', 'ò'), ('ú', 'ù')] word
  markAfterVowel vowel [('u', 'U', true), ('i', 'I', true)] false (markAfterQ grave)

/-- Take a pronoun off a gerund in RV, or write `e` for one on an infinitive. -/
def pronoun : Rule :=
  choose <| Table.ofGroups
    [(["ci", "gli", "la", "le", "li", "lo", "mi", "ne", "si", "ti", "vi", "sene", "gliela",
       "gliele", "glieli", "glielo", "gliene", "mela", "mele", "meli", "melo", "mene", "tela",
       "tele", "teli", "telo", "tene", "cela", "cele", "celi", "celo", "cene", "vela", "vele",
       "veli", "velo", "vene"], host)]
where
  /-- What becomes of the pronoun after the verb form before it. -/
  host : Rule := fun r w =>
    ((Table.ofGroups [(["ando", "endo"], delete), (["ar", "er", "ir"], replace "e")]).longest?
      r.rv w).bind fun found => found.1 r w

/-- Take off or shorten a suffix that makes a noun, an adjective or an adverb. -/
def standard : Rule :=
  choose <| Table.ofGroups
    [(["anza", "anze", "ico", "ici", "ica", "ice", "iche", "ichi", "ismo", "ismi", "abile",
       "abili", "ibile", "ibili", "ista", "iste", "isti", "istà", "istè", "istì", "oso", "osi",
       "osa", "ose", "mente", "atrice", "atrici", "ante", "anti"], inR2 delete),
     (["azione", "azioni", "atore", "atori"],
        inR2 (delete.thenTry (suffix "ic" (inR2 delete)))),
     (["logia", "logie"], inR2 (replace "log")),
     (["uzione", "uzioni", "usione", "usioni"], inR2 (replace "u")),
     (["enza", "enze"], inR2 (replace "ente")),
     (["amento", "amenti", "imento", "imenti"], inRV delete),
     (["amente"],
        inR1 (delete.thenTry (choose (Table.ofGroups
          [(["iv"], inR2 (delete.thenTry (suffix "at" (inR2 delete)))),
           (["os", "ic", "abil"], inR2 delete)])))),
     (["ità"],
        inR2 (delete.thenTry (choose (Table.ofGroups [(["abil", "ic", "iv"], inR2 delete)])))),
     (["ivo", "ivi", "iva", "ive"],
        inR2 (delete.thenTry
          (suffix "at" (inR2 (delete.thenTry (suffix "ic" (inR2 delete)))))))]

/-- Take an ending of the verb off RV. -/
def verb : Rule :=
  chooseWithin Regions.rv <| Table.ofGroups
    [(["ammo", "ando", "ano", "are", "arono", "asse", "assero", "assi", "assimo", "ata", "ate",
       "ati", "ato", "ava", "avamo", "avano", "avate", "avi", "avo", "emmo", "enda", "ende",
       "endi", "endo", "erà", "erai", "eranno", "ere", "erebbe", "erebbero", "erei", "eremmo",
       "eremo", "ereste", "eresti", "erete", "erò", "erono", "essero", "ete", "eva", "evamo",
       "evano", "evate", "evi", "evo", "Yamo", "iamo", "immo", "irà", "irai", "iranno", "ire",
       "irebbe", "irebbero", "irei", "iremmo", "iremo", "ireste", "iresti", "irete", "irò",
       "irono", "isca", "iscano", "isce", "isci", "isco", "iscono", "issero", "ita", "ite",
       "iti", "ito", "iva", "ivamo", "ivano", "ivate", "ivi", "ivo", "ono", "uta", "ute", "uti",
       "uto", "ar", "ir"], delete)]

/-- Take off a final vowel in RV, and an `i` before it. -/
def finalVowel : Rule := fun r w =>
  match w with
  | c :: rest =>
    if oneOf "aeioàèìò" c then inRV (delete.thenTry (suffix "i" (inRV delete))) r rest else none
  | [] => none

/-- Take the `h` off a final `ch` or `gh` in RV. -/
def finalH : Rule := fun r w =>
  match w with
  | 'h' :: c :: rest =>
    if oneOf "cg" c ∧ r.rv ≤ rest.length then some (c :: rest) else none
  | _ => none

/-- The Italian stem of a word. -/
def stem (word : List Char) : List Char :=
  let prepared := prepare word
  respell [('I', 'i'), ('U', 'u')]
    (reduceBy [pronoun, standard.orElse verb, finalVowel, finalH]
      (Regions.ofOpening vowel prepared) prepared)

end TextAnalysis.Stem.Italian
