import TextAnalysis.Error
import TextAnalysis.Text.Blank
import TextAnalysis.Stem.Arabic
import TextAnalysis.Stem.Danish
import TextAnalysis.Stem.Dutch
import TextAnalysis.Stem.English
import TextAnalysis.Stem.Finnish
import TextAnalysis.Stem.French
import TextAnalysis.Stem.German
import TextAnalysis.Stem.Greek
import TextAnalysis.Stem.Hungarian
import TextAnalysis.Stem.Italian
import TextAnalysis.Stem.Norwegian
import TextAnalysis.Stem.Portuguese
import TextAnalysis.Stem.Romanian
import TextAnalysis.Stem.Russian
import TextAnalysis.Stem.Spanish
import TextAnalysis.Stem.Swedish
import TextAnalysis.Stem.Tamil
import TextAnalysis.Stem.Turkish

/-!
# Languages

The languages that can be stemmed, the identifiers by which each is known, and its algorithm.
-/

namespace TextAnalysis

/-- A language that can be stemmed. -/
inductive Language where
  | arabic
  | danish
  | dutch
  | english
  | finnish
  | french
  | german
  | greek
  | hungarian
  | italian
  | norwegian
  | portuguese
  | romanian
  | russian
  | spanish
  | swedish
  | tamil
  | turkish
deriving Repr, DecidableEq

namespace Language

/-- All languages, in alphabetical order. -/
def all : List Language :=
  [arabic, danish, dutch, english, finnish, french, german, greek, hungarian, italian, norwegian,
   portuguese, romanian, russian, spanish, swedish, tamil, turkish]

/-- The canonical name of a language. -/
def name : Language → String
  | arabic => "arabic"
  | danish => "danish"
  | dutch => "dutch"
  | english => "english"
  | finnish => "finnish"
  | french => "french"
  | german => "german"
  | greek => "greek"
  | hungarian => "hungarian"
  | italian => "italian"
  | norwegian => "norwegian"
  | portuguese => "portuguese"
  | romanian => "romanian"
  | russian => "russian"
  | spanish => "spanish"
  | swedish => "swedish"
  | tamil => "tamil"
  | turkish => "turkish"

/-- The ISO 639 codes of a language. -/
def isoCodes : Language → List String
  | arabic => ["ar", "ara"]
  | danish => ["da", "dan"]
  | dutch => ["nl", "dut", "nld"]
  | english => ["en", "eng"]
  | finnish => ["fi", "fin"]
  | french => ["fr", "fre", "fra"]
  | german => ["de", "ger", "deu"]
  | greek => ["el", "gre", "ell"]
  | hungarian => ["hu", "hun"]
  | italian => ["it", "ita"]
  | norwegian => ["no", "nor"]
  | portuguese => ["pt", "por"]
  | romanian => ["ro", "rum", "ron"]
  | russian => ["ru", "rus"]
  | spanish => ["es", "esl", "spa"]
  | swedish => ["sv", "swe"]
  | tamil => ["ta", "tam"]
  | turkish => ["tr", "tur"]

/-- The identifiers of a language: its name and its ISO 639 codes. -/
def identifiers (l : Language) : List String := l.name :: l.isoCodes

/-- The language that a text identifies, blanks around it and ASCII capitals apart. -/
def ofIdentifier? (s : String) : Option Language :=
  all.find? fun l => l.identifiers.contains (Text.asciiLowercase (Text.trim s))

/-- The language that a text identifies, or the error that there is none. -/
def parse (s : String) : Except Error Language :=
  match ofIdentifier? s with
  | some l => .ok l
  | none => .error (.configuration ("unsupported stemmer language '" ++ s ++ "'"))

/-- The language with the given canonical name. -/
def ofName? (s : String) : Option Language := all.find? fun l => l.name = s

/-- The name of a language as a title. -/
def title (l : Language) : String := l.name.capitalize

/-- The stem of a word in a language. -/
def stem : Language → List Char → List Char
  | arabic => Stem.Arabic.stem
  | danish => Stem.Danish.stem
  | dutch => Stem.Dutch.stem
  | english => Stem.English.stem
  | finnish => Stem.Finnish.stem
  | french => Stem.French.stem
  | german => Stem.German.stem
  | greek => Stem.Greek.stem
  | hungarian => Stem.Hungarian.stem
  | italian => Stem.Italian.stem
  | norwegian => Stem.Norwegian.stem
  | portuguese => Stem.Portuguese.stem
  | romanian => Stem.Romanian.stem
  | russian => Stem.Russian.stem
  | spanish => Stem.Spanish.stem
  | swedish => Stem.Swedish.stem
  | tamil => Stem.Tamil.stem
  | turkish => Stem.Turkish.stem

end Language

end TextAnalysis
