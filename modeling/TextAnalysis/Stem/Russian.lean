import TextAnalysis.Stem.Rule

/-!
# Russian stemming

Every rule sees only the letters of RV, which begins after the first vowel.
-/

namespace TextAnalysis.Stem.Russian

open Rule

/-- The vowels. -/
def vowel : Char → Bool := oneOf "аеиоуыэюя"

/-- RV begins after the first vowel; R2 begins after the second syllable. -/
def regions (word : List Char) : Regions :=
  { Regions.ofSyllables vowel 0 word with rv := startOf word.length (past? vowel word) }

/-- Apply `a` after `а` or `я`. -/
def afterA (a : Rule) : Rule := after (oneOf "ая") a

/-- Take off the ending of a perfective gerund. -/
def gerund : Rule :=
  choose <| Table.ofGroups
    [(["в", "вши", "вшись"], afterA delete),
     (["ив", "ивши", "ившись", "ыв", "ывши", "ывшись"], delete)]

/-- Take off the ending of an adjective. -/
def adjective : Rule :=
  choose <| Table.ofGroups
    [(["ее", "ие", "ые", "ое", "ими", "ыми", "ей", "ий", "ый", "ой", "ем", "им", "ым", "ом",
       "его", "ого", "ему", "ому", "их", "ых", "ую", "юю", "ая", "яя", "ою", "ею"], delete)]

/-- Take off the suffix of a participle. -/
def participle : Rule :=
  choose <| Table.ofGroups
    [(["ем", "нн", "вш", "ющ", "щ"], afterA delete),
     (["ивш", "ывш", "ующ"], delete)]

/-- Take off the reflexive ending. -/
def reflexive : Rule := choose <| Table.ofGroups [(["ся", "сь"], delete)]

/-- Take off the ending of a verb. -/
def verb : Rule :=
  choose <| Table.ofGroups
    [(["ла", "на", "ете", "йте", "ли", "й", "л", "ем", "н", "ло", "но", "ет", "ют", "ны", "ть",
       "ешь", "нно"], afterA delete),
     (["ила", "ыла", "ена", "ейте", "уйте", "ите", "или", "ыли", "ей", "уй", "ил", "ыл", "им",
       "ым", "ен", "ило", "ыло", "ено", "ят", "ует", "уют", "ит", "ыт", "ены", "ить", "ыть",
       "ишь", "ую", "ю"], delete)]

/-- Take off the ending of a noun. -/
def noun : Rule :=
  choose <| Table.ofGroups
    [(["а", "ев", "ов", "ие", "ье", "е", "иями", "ями", "ами", "еи", "ии", "и", "ией", "ей", "ой",
       "ий", "й", "иям", "ям", "ием", "ем", "ам", "ом", "о", "у", "ах", "иях", "ях", "ы", "ь",
       "ию", "ью", "ю", "ия", "ья", "я"], delete)]

/-- Take off the inflection. A perfective gerund keeps a reflexive ending that is not part of it. -/
def inflection : Rule := fun r w =>
  let bare := reflexive.apply r w
  (gerund r w).or
    (some (apply (((adjective.thenTry participle).orElse verb).orElse noun) r bare))

/-- Take off the suffix of an abstract noun in R2. -/
def derivation : Rule := choose <| Table.ofGroups [(["ост", "ость"], inR2 delete)]

/-- Take off a superlative, one `н` of two, or a soft sign. -/
def tidy : Rule :=
  choose <| Table.ofGroups
    [(["ейш", "ейше"], delete.thenTry (suffix "н" (after (· = 'н') delete))),
     (["н"], after (· = 'н') delete),
     (["ь"], delete)]

/-- The Russian stem of a word. -/
def stem (word : List Char) : List Char :=
  reduceBy
    [confined Regions.rv fun r w =>
      some (inTurn [inflection, suffix "и" delete, derivation, tidy] r w)]
    (regions word) word

end TextAnalysis.Stem.Russian
