import TextAnalysis.Stem.Rule

/-!
# Portuguese stemming

A nasal vowel `ã` or `õ` is written as the plain vowel and `~` while the rules run, so that the
mark counts as a consonant.
-/

namespace TextAnalysis.Stem.Portuguese

open Rule

/-- The vowels. -/
def vowel : Char → Bool := oneOf "aeiouáéíóúâêô"

/-- Write the nasal vowels with a separate mark. -/
def prepare (word : List Char) : List Char :=
  word.flatMap fun c => if c = 'ã' then ['a', '~'] else if c = 'õ' then ['o', '~'] else [c]

/-- Write the nasal vowels as one letter each. -/
def finish : List Char → List Char
  | 'a' :: '~' :: cs => 'ã' :: finish cs
  | 'o' :: '~' :: cs => 'õ' :: finish cs
  | c :: cs => c :: finish cs
  | [] => []

/-- Take off or shorten a suffix that makes a noun, an adjective or an adverb. -/
def standard : Rule :=
  choose <| Table.ofGroups
    [(["eza", "ezas", "ico", "ica", "icos", "icas", "ismo", "ismos", "ável", "ível", "ista",
       "istas", "oso", "osa", "osos", "osas", "amento", "amentos", "imento", "imentos", "adora",
       "ador", "aça~o", "adoras", "adores", "aço~es", "ante", "antes", "ância"], inR2 delete),
     (["logia", "logias"], inR2 (replace "log")),
     (["uça~o", "uço~es"], inR2 (replace "u")),
     (["ência", "ências"], inR2 (replace "ente")),
     (["amente"],
        inR1 (delete.thenTry (choose (Table.ofGroups
          [(["iv"], inR2 (delete.thenTry (suffix "at" (inR2 delete)))),
           (["os", "ic", "ad"], inR2 delete)])))),
     (["mente"],
        inR2 (delete.thenTry (choose (Table.ofGroups
          [(["ante", "avel", "ível"], inR2 delete)])))),
     (["idade", "idades"],
        inR2 (delete.thenTry (choose (Table.ofGroups [(["abil", "ic", "iv"], inR2 delete)])))),
     (["iva", "ivo", "ivas", "ivos"], inR2 (delete.thenTry (suffix "at" (inR2 delete)))),
     (["ira", "iras"], inRV (after (· = 'e') (replace "ir")))]

/-- Take an ending of the verb off RV. -/
def verb : Rule :=
  chooseWithin Regions.rv <| Table.ofGroups
    [(["ada", "ida", "ia", "aria", "eria", "iria", "ará", "ara", "erá", "era", "irá", "ava",
       "asse", "esse", "isse", "aste", "este", "iste", "ei", "arei", "erei", "irei", "am", "iam",
       "ariam", "eriam", "iriam", "aram", "eram", "iram", "avam", "em", "arem", "erem", "irem",
       "assem", "essem", "issem", "ado", "ido", "ando", "endo", "indo", "ara~o", "era~o",
       "ira~o", "ar", "er", "ir", "as", "adas", "idas", "ias", "arias", "erias", "irias", "arás",
       "aras", "erás", "eras", "irás", "avas", "es", "ardes", "erdes", "irdes", "ares", "eres",
       "ires", "asses", "esses", "isses", "astes", "estes", "istes", "is", "ais", "eis", "íeis",
       "aríeis", "eríeis", "iríeis", "áreis", "areis", "éreis", "ereis", "íreis", "ireis",
       "ásseis", "ésseis", "ísseis", "áveis", "ados", "idos", "ámos", "amos", "íamos", "aríamos",
       "eríamos", "iríamos", "áramos", "éramos", "íramos", "ávamos", "emos", "aremos", "eremos",
       "iremos", "ássemos", "êssemos", "íssemos", "imos", "armos", "ermos", "irmos", "eu", "iu",
       "ou", "ira", "iras"], delete)]

/-- Take an `i` in RV off a final `ci`. -/
def softC : Rule := suffix "i" (after (· = 'c') (inRV delete))

/-- Take a vowel that is left off RV. -/
def residual : Rule :=
  choose <| Table.ofGroups [(["os", "a", "i", "o", "á", "í", "ó"], inRV delete)]

/-- Take a final `e` off RV, with the `u` of `gu` or the `i` of `ci`; a final `ç` becomes `c`. -/
def residualForm : Rule :=
  choose <| Table.ofGroups
    [(["e", "é", "ê"],
        inRV (delete.thenTry ((suffix "u" (after (· = 'g') (inRV delete))).orElse softC))),
     (["ç"], replace "c")]

/-- The Portuguese stem of a word. -/
def stem (word : List Char) : List Char :=
  let prepared := prepare word
  let main : Rule := ((standard.orElse verb).thenTry softC).orElse residual
  finish (reduceBy [main, residualForm] (Regions.ofOpening vowel prepared) prepared)

end TextAnalysis.Stem.Portuguese
