import TextAnalysis.Stem.Rule

/-!
# Hungarian stemming

A word that begins with a vowel has its R1 after the first consonant, of which some are written
with two or three letters; any other word has it after the first vowel.
-/

namespace TextAnalysis.Stem.Hungarian

open Rule

/-- The vowels. -/
def vowel : Char → Bool := oneOf "aeiouáéíóöőúüű"

/-- What follows a consonant at the beginning of a text, however many letters it is written with. -/
def pastConsonant? (cs : List Char) : Option (List Char) :=
  (["cs", "gy", "ly", "ny", "sz", "ty", "zs", "dzs"].findSome? fun s =>
    dropInitial? s.toList cs).or cs.tail?

/-- What follows the opening of a word. -/
def pastOpening? : List Char → Option (List Char)
  | [] => none
  | c :: cs =>
    if vowel c then pastConsonant? (cs.dropWhile vowel) else past? vowel cs

/-- The regions of a word. -/
def regions (word : List Char) : Regions :=
  let n := word.length
  { rv := n, r1 := startOf n (pastOpening? word), r2 := n }

/-- A doubled consonant; of one written with two letters only the first is doubled. -/
def doubled : List String :=
  ["bb", "cc", "ccs", "dd", "ff", "gg", "ggy", "jj", "kk", "ll", "lly", "mm", "nn", "nny", "pp",
   "rr", "ss", "ssz", "tt", "tty", "vv", "zz", "zzs"]

/-- Take off the suffix after a doubled consonant, and write the consonant once. -/
def afterDoubled : Rule :=
  inR1 <| onlyAfter doubled fun _ w =>
    match w with
    | c :: _ :: rest => some (c :: rest)
    | _ => none

/-- A final long vowel in R1 becomes short. -/
def shortenVowel : Rule :=
  choose <| Table.ofGroups [(["á"], inR1 (replace "a")), (["é"], inR1 (replace "e"))]

/-- Take off the instrumental ending that doubles a consonant. -/
def instrumental : Rule := choose <| Table.ofGroups [(["al", "el"], afterDoubled)]

/-- Take off a case ending. -/
def caseEnding : Rule :=
  choose <| Table.ofGroups
    [(["ban", "ben", "ba", "be", "ra", "re", "nak", "nek", "val", "vel", "tól", "től", "ról", "ről",
       "ból", "ből", "hoz", "hez", "höz", "nál", "nél", "ig", "at", "et", "ot", "öt", "ért",
       "képp", "képpen", "kor", "ul", "ül", "vá", "vé", "onként", "enként", "anként", "ként",
       "en", "on", "an", "ön", "n", "t"], inR1 (delete.thenTry shortenVowel))]

/-- Shorten a case ending that begins with a long vowel. -/
def longVowelCase : Rule :=
  choose <| Table.ofGroups
    [(["én"], inR1 (replace "e")),
     (["án"], inR1 (replace "a")),
     (["ánként"], inR1 (replace "a"))]

/-- Take off the ending that says together with what. -/
def sociative : Rule :=
  choose <| Table.ofGroups
    [(["astul", "estül", "stul", "stül"], inR1 delete),
     (["ástul"], inR1 (replace "a")),
     (["éstül"], inR1 (replace "e"))]

/-- Take off the ending that says into what, which doubles a consonant. -/
def factive : Rule := choose <| Table.ofGroups [(["á", "é"], afterDoubled)]

/-- Take off the ending of what belongs to something. -/
def owned : Rule :=
  choose <| Table.ofGroups
    [(["oké", "öké", "aké", "eké", "ké", "éi", "é"], inR1 delete),
     (["éké", "ééi", "éé"], inR1 (replace "e")),
     (["áké", "áéi"], inR1 (replace "a"))]

/-- Take off the ending that names the owner of one thing. -/
def ownerOfOne : Rule :=
  choose <| Table.ofGroups
    [(["ünk", "unk", "nk", "juk", "jük", "uk", "ük", "em", "om", "am", "m", "od", "ed", "ad",
       "öd", "d", "ja", "je", "a", "e", "o"], inR1 delete),
     (["ánk", "ájuk", "ám", "ád", "á"], inR1 (replace "a")),
     (["énk", "éjük", "ém", "éd", "é"], inR1 (replace "e"))]

/-- Take off the ending that names the owner of several things. -/
def ownerOfMany : Rule :=
  choose <| Table.ofGroups
    [(["jaim", "jeim", "aim", "eim", "im", "jaid", "jeid", "aid", "eid", "id", "jai", "jei", "ai",
       "ei", "i", "jaink", "jeink", "eink", "aink", "ink", "jaitok", "jeitek", "aitok", "eitek",
       "itek", "jeik", "jaik", "aik", "eik", "ik"], inR1 delete),
     (["áim", "áid", "ái", "áink", "áitok", "áik"], inR1 (replace "a")),
     (["éim", "éid", "éi", "éink", "éitek", "éik"], inR1 (replace "e"))]

/-- Take off the ending of the plural. -/
def plural : Rule :=
  choose <| Table.ofGroups
    [(["ák"], inR1 (replace "a")),
     (["ék"], inR1 (replace "e")),
     (["ök", "ak", "ok", "ek", "k"], inR1 delete)]

/-- The Hungarian stem of a word. -/
def stem (word : List Char) : List Char :=
  reduceBy
    [instrumental, caseEnding, longVowelCase, sociative, factive, owned, ownerOfOne, ownerOfMany,
     plural] (regions word) word

end TextAnalysis.Stem.Hungarian
