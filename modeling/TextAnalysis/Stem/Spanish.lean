import TextAnalysis.Stem.Rule

/-!
# Spanish stemming

The rules run on the accented word; the acute accents that are left are dropped at the end.
-/

namespace TextAnalysis.Stem.Spanish

open Rule

/-- The vowels. -/
def vowel : Char → Bool := oneOf "aeiouáéíóúü"

/-- Take a pronoun off a gerund or an infinitive in RV, and the accent that it brought with it. -/
def pronoun : Rule :=
  choose <| Table.ofGroups
    [(["me", "se", "sela", "selo", "selas", "selos", "la", "le", "lo", "las", "les", "los",
       "nos"], host)]
where
  /-- The verb form once its pronoun is off. -/
  host : Rule := fun r w =>
    ((Table.ofGroups
      [(["iéndo"], fun _ rest => some (append "iendo" rest)),
       (["ándo"], fun _ rest => some (append "ando" rest)),
       (["ár"], fun _ rest => some (append "ar" rest)),
       (["ér"], fun _ rest => some (append "er" rest)),
       (["ír"], fun _ rest => some (append "ir" rest)),
       (["ando", "iendo", "ar", "er", "ir"], fun _ _ => some w),
       (["yendo"], after (· = 'u') fun _ _ => some w)]).longest? 0 w).bind fun found =>
      inRV found.1 r found.2

/-- Take off or shorten a suffix that makes a noun, an adjective or an adverb. -/
def standard : Rule :=
  choose <| Table.ofGroups
    [(["anza", "anzas", "ico", "ica", "icos", "icas", "ismo", "ismos", "able", "ables", "ible",
       "ibles", "ista", "istas", "oso", "osa", "osos", "osas", "amiento", "amientos", "imiento",
       "imientos"], inR2 delete),
     (["adora", "ador", "ación", "adoras", "adores", "aciones", "ante", "antes", "ancia",
       "ancias"], inR2 (delete.thenTry (suffix "ic" (inR2 delete)))),
     (["logía", "logías"], inR2 (replace "log")),
     (["ución", "uciones"], inR2 (replace "u")),
     (["encia", "encias"], inR2 (replace "ente")),
     (["amente"],
        inR1 (delete.thenTry (choose (Table.ofGroups
          [(["iv"], inR2 (delete.thenTry (suffix "at" (inR2 delete)))),
           (["os", "ic", "ad"], inR2 delete)])))),
     (["mente"],
        inR2 (delete.thenTry (choose (Table.ofGroups
          [(["ante", "able", "ible"], inR2 delete)])))),
     (["idad", "idades"],
        inR2 (delete.thenTry (choose (Table.ofGroups [(["abil", "ic", "iv"], inR2 delete)])))),
     (["iva", "ivo", "ivas", "ivos"],
        inR2 (delete.thenTry (suffix "at" (inR2 delete))))]

/-- Take an ending of the verb that begins with `y` off RV, after `u`. -/
def verbInY : Rule :=
  chooseWithin Regions.rv <| Table.ofGroups
    [(["ya", "ye", "yan", "yen", "yeron", "yendo", "yo", "yó", "yas", "yes", "yais", "yamos"],
        after (· = 'u') delete)]

/-- Take an ending of the verb off RV; with a short one goes the `u` of `gu`. -/
def verb : Rule :=
  chooseWithin Regions.rv <| Table.ofGroups
    [(["en", "es", "éis", "emos"],
        (suffix "u" (after (· = 'g') delete)).orElse delete),
     (["arían", "arías", "arán", "arás", "aríais", "aría", "aréis", "aríamos", "aremos", "ará",
       "aré", "erían", "erías", "erán", "erás", "eríais", "ería", "eréis", "eríamos", "eremos",
       "erá", "eré", "irían", "irías", "irán", "irás", "iríais", "iría", "iréis", "iríamos",
       "iremos", "irá", "iré", "aba", "ada", "ida", "ía", "ara", "iera", "ad", "ed", "id", "ase",
       "iese", "aste", "iste", "an", "aban", "ían", "aran", "ieran", "asen", "iesen", "aron",
       "ieron", "ado", "ido", "ando", "iendo", "ió", "ar", "er", "ir", "as", "abas", "adas",
       "idas", "ías", "aras", "ieras", "ases", "ieses", "ís", "áis", "abais", "íais", "arais",
       "ierais", "  aseis", "ieseis", "asteis", "isteis", "ados", "idos", "amos", "ábamos",
       "íamos", "imos", "áramos", "iéramos", "iésemos", "ásemos"], delete)]

/-- Take off a final vowel in RV; with `e` goes the `u` of `gu`. -/
def residual : Rule :=
  choose <| Table.ofGroups
    [(["os", "a", "o", "á", "í", "ó"], inRV delete),
     (["e", "é"], inRV (delete.thenTry (suffix "u" (after (· = 'g') (inRV delete)))))]

/-- The Spanish stem of a word. -/
def stem (word : List Char) : List Char :=
  respell [('á', 'a'), ('é', 'e'), ('í', 'i'), ('ó', 'o'), ('ú', 'u')]
    (reduceBy [pronoun, (standard.orElse verbInY).orElse verb, residual]
      (Regions.ofOpening vowel word) word)

end TextAnalysis.Stem.Spanish
