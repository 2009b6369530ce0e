import TextAnalysis.Stem.Rule

/-!
# Romanian stemming

A `u` or `i` between vowels is written as a capital while the rules run. The letters `ş` and `ţ`
are the ones with a cedilla.
-/

namespace TextAnalysis.Stem.Romanian

open Rule

/-- The vowels. -/
def vowel : Char → Bool := oneOf "aeiouâîă"

/-- Mark the consonants `u` and `i`. -/
def prepare (word : List Char) : List Char :=
  markAfterVowel vowel [('u', 'U', true), ('i', 'I', true)] false word

/-- Take the article and the plural off R1. -/
def article : Rule :=
  choose <| Table.ofGroups
    [(["ul", "ului"], inR1 delete),
     (["aua"], inR1 (replace "a")),
     (["ea", "ele", "elor"], inR1 (replace "e")),
     (["ii", "iua", "iei", "iile", "iilor", "ilor"], inR1 (replace "i")),
     (["ile"], inR1 (unlessAfter ["ab"] (replace "i"))),
     (["atei"], inR1 (replace "at")),
     (["aţie", "aţia"], inR1 (replace "aţi"))]

/-- Write one suffix for two. -/
def combined : Rule :=
  choose <| Table.ofGroups
    [(["abilitate", "abilitati", "abilităi", "abilităţi"], inR1 (replace "abil")),
     (["ibilitate"], inR1 (replace "ibil")),
     (["ivitate", "ivitati", "ivităi", "ivităţi"], inR1 (replace "iv")),
     (["icitate", "icitati", "icităi", "icităţi", "icator", "icatori", "iciv", "iciva", "icive",
       "icivi", "icivă", "ical", "icala", "icale", "icali", "icală"], inR1 (replace "ic")),
     (["ativ", "ativa", "ative", "ativi", "ativă", "aţiune", "atoare", "ator", "atori", "ătoare",
       "ător", "ători"], inR1 (replace "at")),
     (["itiv", "itiva", "itive", "itivi", "itivă", "iţiune", "itoare", "itor", "itori"],
        inR1 (replace "it"))]

/-- Apply `combined` as long as it applies; every time the word gets shorter. -/
def combinedAll (r : Regions) (w : List Char) : List Char :=
  match combined r w with
  | none => w
  | some w' => if w'.length < w.length then combinedAll r w' else w'
termination_by w.length

/-- Take off or shorten a suffix in R2 that makes a noun, an adjective or a participle. -/
def standard : Rule :=
  choose <| Table.ofGroups
    [(["at", "ata", "ată", "ati", "ate", "ut", "uta", "ută", "uti", "ute", "it", "ita", "ită",
       "iti", "ite", "ic", "ica", "ice", "ici", "ică", "abil", "abila", "abile", "abili", "abilă",
       "ibil", "ibila", "ibile", "ibili", "ibilă", "oasa", "oasă", "oase", "os", "osi", "oşi",
       "ant", "anta", "ante", "anti", "antă", "ator", "atori", "itate", "itati", "ităi", "ităţi",
       "iv", "iva", "ive", "ivi", "ivă"], inR2 delete),
     (["iune", "iuni"], inR2 (suffix "ţ" (replace "t"))),
     (["ism", "isme", "ist", "ista", "iste", "isti", "istă", "işti"], inR2 (replace "ist"))]

/-- Take an ending of the verb off RV; most of them only after a consonant or `u` in RV. -/
def verb : Rule :=
  confined Regions.rv <| choose <| Table.ofGroups
    [(["are", "ere", "ire", "âre", "ind", "ând", "indu", "ându", "eze", "ească", "ez", "ezi",
       "ează", "esc", "eşti", "eşte", "ăsc", "ăşti", "ăşte", "am", "ai", "au", "eam", "eai", "ea",
       "eaţi", "eau", "iam", "iai", "ia", "iaţi", "iau", "ui", "aşi", "arăm", "arăţi", "ară",
       "uşi", "urăm", "urăţi", "ură", "işi", "irăm", "irăţi", "iră", "âi", "âşi", "ârăm", "ârăţi",
       "âră", "asem", "aseşi", "ase", "aserăm", "aserăţi", "aseră", "isem", "iseşi", "ise",
       "iserăm", "iserăţi", "iseră", "âsem", "âseşi", "âse", "âserăm", "âserăţi", "âseră", "usem",
       "useşi", "use", "userăm", "userăţi", "useră"], after (fun c => !vowel c || c = 'u') delete),
     (["ăm", "aţi", "em", "eţi", "im", "iţi", "âm", "âţi", "seşi", "serăm", "serăţi", "seră",
       "sei", "se", "sesem", "seseşi", "sese", "seserăm", "seserăţi", "seseră"], delete)]

/-- Take a final vowel off RV. -/
def finalVowel : Rule :=
  choose <| Table.ofGroups [(["a", "e", "i", "ie", "ă"], inRV delete)]

/-- The rules in the order in which a prepared, reversed word passes them. The verb ending is tried
where no other suffix went off. -/
def reduce (r : Regions) (w : List Char) : List Char :=
  let w := article.apply r w
  let combined := combinedAll r w
  let w := match standard r combined with
    | some w' => w'
    | none => if combined = w then verb.apply r w else combined
  finalVowel.apply r w

/-- The Romanian stem of a word. -/
def stem (word : List Char) : List Char :=
  let prepared := prepare word
  respell [('I', 'i'), ('U', 'u')]
    (reduce (Regions.ofOpening vowel prepared) prepared.reverse).reverse

end TextAnalysis.Stem.Romanian
