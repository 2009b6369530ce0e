import TextAnalysis.Stem.Rule

/-!
# Turkish stemming

Suffixes follow one another in chains and most of them agree with the vowels before them. A
recogniser takes one suffix off the end of a reversed word and gives the letters before it; the
rules take off the chains that the recognisers describe.
-/

namespace TextAnalysis.Stem.Turkish

/-- What takes one suffix off the end of a reversed word. -/
abbrev Recogniser := List Char → Option (List Char)

/-- The vowels. -/
def vowel : Char → Bool := oneOf "aeıioöuü"

/-- The close vowels, of which a suffix takes the one that agrees with the word. -/
def closeVowel : Char → Bool := oneOf "ıiuü"

/-- The vowels that can come before the vowel `c` in a word with harmony. -/
def agreeing (c : Char) : String :=
  match c with
  | 'a' => "aıou"
  | 'e' => "eiöü"
  | 'ı' => "aı"
  | 'i' => "ei"
  | 'o' | 'u' => "ou"
  | 'ö' | 'ü' => "öü"
  | _ => ""

/-- Whether an agreeing vowel stands before the last vowel of a reversed word. -/
def harmonic (w : List Char) : Bool :=
  match w.dropWhile fun c => !vowel c with
  | c :: rest => rest.any (oneOf (agreeing c))
  | [] => false

namespace Recogniser

/-- The longest of the suffixes listed. -/
def anyOf (suffixes : List String) : Recogniser := fun w =>
  ((Table.ofGroups [(suffixes, ())]).longest? 0 w).map Prod.snd

/-- The recogniser, on words with vowel harmony only. -/
def agreed (a : Recogniser) : Recogniser := fun w => if harmonic w then a w else none

/-- The first recogniser, or the second where the first finds nothing. -/
def orElse (a b : Recogniser) : Recogniser := fun w => (a w).or (b w)

/-- One suffix after another, the last one first. -/
def andThen (a b : Recogniser) : Recogniser := fun w => (a w).bind b

/-- The first suffix, and the second before it if it is there. -/
def thenTry (a b : Recogniser) : Recogniser := fun w => (a w).map fun rest => (b rest).getD rest

/-- A letter of the class `linking` that joins the suffix to a letter of the class `before`; if
there is none, a letter of that class stands one further from the end. -/
def joined (linking before : Char → Bool) : Recogniser
  | c :: d :: rest =>
    if before d then (if linking c then some (d :: rest) else some (c :: d :: rest)) else none
  | _ => none

/-- A suffix that a consonant `c` joins to a vowel. -/
def joinedBy (c : Char) (a : Recogniser) : Recogniser := a.andThen (joined (· = c) vowel)

end Recogniser

open Recogniser

/-- The possessive endings. -/
def possessive : Recogniser :=
  (anyOf ["mız", "miz", "muz", "müz", "nız", "niz", "nuz", "nüz", "m", "n"]).andThen
    (joined closeVowel fun c => !vowel c)

/-- The single close vowel that ends a reversed word. -/
def closeEnd : Recogniser := anyOf ["ı", "i", "u", "ü"]

/-- The possessive of the third person. -/
def possessiveSu : Recogniser := agreed (joinedBy 's' closeEnd)

/-- The possessive of the third person plural. -/
def pluralPossessive : Recogniser := anyOf ["leri", "ları"]

/-- The accusative. -/
def accusative : Recogniser := agreed (joinedBy 'y' closeEnd)

/-- The accusative after a possessive. -/
def accusativeNu : Recogniser := agreed (anyOf ["nı", "ni", "nu", "nü"])

/-- The genitive. -/
def genitive : Recogniser := agreed (joinedBy 'n' (anyOf ["ın", "in", "un", "ün"]))

/-- The dative. -/
def dative : Recogniser := agreed (joinedBy 'y' (anyOf ["a", "e"]))

/-- The dative after a possessive. -/
def dativeNa : Recogniser := agreed (anyOf ["na", "ne"])

/-- The locative. -/
def locative : Recogniser := agreed (anyOf ["da", "de", "ta", "te"])

/-- The locative after a possessive. -/
def locativeNda : Recogniser := agreed (anyOf ["nda", "nde"])

/-- The ablative. -/
def ablative : Recogniser := agreed (anyOf ["dan", "den", "tan", "ten"])

/-- The ablative after a possessive. -/
def ablativeNdan : Recogniser := agreed (anyOf ["ndan", "nden"])

/-- The instrumental. -/
def instrumental : Recogniser := agreed (joinedBy 'y' (anyOf ["la", "le"]))

/-- The relative ending. -/
def relative : Recogniser := anyOf ["ki"]

/-- The equative. -/
def equative : Recogniser := agreed (joinedBy 'n' (anyOf ["ca", "ce"]))

/-- The plural. -/
def plural : Recogniser := agreed (anyOf ["ler", "lar"])

/-- The copula in the first person singular. -/
def amI : Recogniser := agreed (joinedBy 'y' (anyOf ["ım", "im", "um", "üm"]))

/-- The copula in the second person singular. -/
def areThou : Recogniser := agreed (anyOf ["sın", "sin", "sun", "sün"])

/-- The copula in the first person plural. -/
def areWe : Recogniser := agreed (joinedBy 'y' (anyOf ["ız", "iz", "uz", "üz"]))

/-- The copula in the second person plural. -/
def areYou : Recogniser := anyOf ["sınız", "siniz", "sunuz", "sünüz"]

/-- The person ending of the second person plural. -/
def youEnding : Recogniser := agreed (anyOf ["nız", "niz", "nuz", "nüz"])

/-- The copula in the third person. -/
def isIt : Recogniser :=
  agreed (anyOf ["tır", "tir", "tur", "tür", "dır", "dir", "dur", "dür"])

/-- The ending that says in what manner. -/
def asIf : Recogniser := anyOf ["casına", "cesine"]

/-- The copula in the past. -/
def was : Recogniser :=
  agreed (joinedBy 'y' (anyOf
    ["tım", "tim", "tum", "tüm", "dım", "dim", "dum", "düm", "tın", "tin", "tun", "tün", "dın",
     "din", "dun", "dün", "tık", "tik", "tuk", "tük", "dık", "dik", "duk", "dük", "tı", "ti",
     "tu", "tü", "dı", "di", "du", "dü"]))

/-- The conditional copula. -/
def ifSo : Recogniser :=
  joinedBy 'y' (anyOf ["sam", "san", "sak", "sem", "sen", "sek", "sa", "se"])

/-- The copula of hearsay. -/
def supposedly : Recogniser := agreed (joinedBy 'y' (anyOf ["mış", "miş", "muş", "müş"]))

/-- The copula that says while. -/
def meanwhile : Recogniser := joinedBy 'y' (anyOf ["ken"])

/-- A person ending, if there is one, and hearsay before it. -/
def hearsay : Recogniser := fun w =>
  supposedly (((((areYou.orElse plural).orElse amI).orElse areThou).orElse areWe w).getD w)

/-- Take the endings of a verb off a noun. The flag tells whether endings of the noun may follow. -/
def nominalVerb (w : List Char) : List Char × Bool :=
  let copula := ((supposedly.orElse was).orElse ifSo).orElse meanwhile
  let ofPlural := plural.thenTry (((isIt.orElse was).orElse ifSo).orElse supposedly)
  let ofPerson := (((areYou.orElse areWe).orElse areThou).orElse amI).thenTry supposedly
  match (copula.orElse (asIf.andThen hearsay)) w with
  | some rest => (rest, true)
  | none =>
    match ofPlural w with
    | some rest => (rest, false)
    | none =>
      let others :=
        ((youEnding.andThen (was.orElse ifSo)).orElse ofPerson).orElse (isIt.thenTry hearsay)
      ((others w).getD w, true)

/-- What the recogniser leaves of `rest`, with the suffix that follows `rest` in `w` kept. -/
def keeping (w rest : List Char) (a : Recogniser) : Option (List Char) :=
  (a rest).map (w.take (w.length - rest.length) ++ ·)

/-- Take off a chain of endings of the noun that ends in the relative `ki`. The first argument
bounds how many chains may follow one another; each has at least two letters. -/
def chain : Nat → Recogniser
  | 0 => fun _ => none
  | n + 1 => fun w =>
    (relative w).bind fun k =>
      let owned := (plural.thenTry (chain n))
      match locative k with
      | some rest =>
        some ((((plural.thenTry (chain n)).orElse (possessive.thenTry owned)) rest).getD rest)
      | none =>
        match genitive k with
        | some rest =>
          some (((pluralPossessive.orElse
            ((possessive.orElse possessiveSu).thenTry owned)).orElse (chain n) rest).getD rest)
        | none =>
          (locativeNda k).bind fun rest =>
            ((pluralPossessive.orElse (possessiveSu.thenTry owned)) rest).or
              (keeping w rest (chain n))

/-- Take off the endings of a noun. -/
def noun (w : List Char) : Option (List Char) :=
  let chain := chain w.length
  let owned := plural.thenTry chain
  let ofOwner := (possessive.orElse possessiveSu).thenTry owned
  let afterPossessive : Recogniser := fun w =>
    ((locativeNda.orElse dativeNa) w).bind fun rest =>
      ((pluralPossessive.orElse (possessiveSu.thenTry owned)) rest).or (keeping w rest chain)
  let fromPossessive : Recogniser := fun w =>
    ((ablativeNdan.orElse accusativeNu) w).bind fun rest =>
      ((possessiveSu.thenTry owned) rest).or ((pluralPossessive rest).map fun _ => w)
  let beforeGenitive : Recogniser := fun rest =>
    match plural rest with
    | some p => some ((chain p).getD ((ofOwner.orElse chain p).getD p))
    | none => ofOwner.orElse chain rest
  [plural.thenTry chain,
   equative.thenTry ((pluralPossessive.orElse ofOwner).orElse owned),
   afterPossessive,
   fromPossessive,
   ablative.thenTry (((possessive.thenTry owned).orElse owned).orElse chain),
   (genitive.orElse instrumental).thenTry beforeGenitive,
   pluralPossessive,
   chain,
   ((locative.orElse accusative).orElse dative).thenTry
     (((possessive.thenTry plural).orElse plural).thenTry chain),
   ofOwner].findSome? fun a => a w

/-- The vowel that a stem in `d` or `g` takes after its last vowel. -/
def closingVowel (w : List Char) : Option Char :=
  (w.find? vowel).map fun v =>
    if oneOf "aı" v then 'ı' else if oneOf "ei" v then 'i' else if oneOf "ou" v then 'u' else 'ü'

/-- Add a vowel to a stem in `d` or `g`, and harden a soft final consonant. -/
def finish (w : List Char) : List Char :=
  let closed := match w with
    | c :: _ =>
      if c = 'd' ∨ c = 'g' then ((closingVowel w).map (· :: w)).getD w else w
    | [] => w
  match closed with
  | 'b' :: rest => 'p' :: rest
  | 'c' :: rest => 'ç' :: rest
  | 'd' :: rest => 't' :: rest
  | 'ğ' :: rest => 'k' :: rest
  | _ => closed

/-- The Turkish stem of a word. A word of one syllable is its own stem. -/
def stem (word : List Char) : List Char :=
  if (word.filter vowel).length < 2 then word
  else
    let bare := nominalVerb word.reverse
    if bare.2 then
      let w := (noun bare.1).getD bare.1
      if ["ad", "soyad"].contains (String.ofList w.reverse) then w.reverse else (finish w).reverse
    else bare.1.reverse

end TextAnalysis.Stem.Turkish
