import TextAnalysis.Stem.Rule

/-!
# Arabic stemming

Vowel signs and punctuation are dropped, and letters in a presentation form are written as plain
ones. Suffixes are taken off as from a verb or else as from a noun; a word that begins with an
article is no verb. Prefixes come last, and then the carriers of a hamza are unified.
-/

namespace TextAnalysis.Stem.Arabic

open Rule

/-- What a word may be, as its beginning tells. -/
structure Kind where
  noun : Bool := true
  verb : Bool := true
  defined : Bool := false
deriving Repr, DecidableEq

/-- The longest entry that a word begins with, and what follows it. -/
def initial? {α : Type} (table : List (List String × α)) (w : List Char) :
    Option (α × List Char) :=
  let found := (table.flatMap fun g => g.1.map fun s => (s.toList, g.2)).filterMap fun e =>
    (dropInitial? e.1 w).map fun rest => (e.2, rest)
  found.foldl (fun best e =>
    match best with
    | none => some e
    | some b => if e.2.length < b.2.length then some e else some b) none

/-- A word that begins with an article is a definite noun. -/
def kindOf (word : List Char) : Kind :=
  match initial? [(["بال", "كال"], 5), (["لل", "ال"], 4)] word with
  | some (least, _) =>
    if least ≤ word.length then { noun := true, verb := false, defined := true } else {}
  | none => {}

/-- The presentation forms of the letters: the first form, how many there are, and the letter. -/
def presentationForms : List (Nat × Nat × String) :=
  [(0xFE80, 1, "ء"), (0xFE81, 2, "آ"), (0xFE83, 2, "أ"), (0xFE85, 2, "ؤ"), (0xFE87, 2, "إ"),
   (0xFE89, 4, "ئ"), (0xFE8D, 2, "ا"), (0xFE8F, 4, "ب"), (0xFE93, 2, "ة"), (0xFE95, 4, "ت"),
   (0xFE99, 4, "ث"), (0xFE9D, 4, "ج"), (0xFEA1, 4, "ح"), (0xFEA5, 4, "خ"), (0xFEA9, 2, "د"),
   (0xFEAB, 2, "ذ"), (0xFEAD, 2, "ر"), (0xFEAF, 2, "ز"), (0xFEB1, 4, "س"), (0xFEB5, 4, "ش"),
   (0xFEB9, 4, "ص"), (0xFEBD, 4, "ض"), (0xFEC1, 4, "ط"), (0xFEC5, 4, "ظ"), (0xFEC9, 4, "ع"),
   (0xFECD, 4, "غ"), (0xFED1, 4, "ف"), (0xFED5, 4, "ق"), (0xFED9, 4, "ك"), (0xFEDD, 4, "ل"),
   (0xFEE1, 4, "م"), (0xFEE5, 4, "ن"), (0xFEE9, 4, "ه"), (0xFEED, 2, "و"), (0xFEEF, 2, "ى"),
   (0xFEF1, 4, "ي"), (0xFEF5, 2, "لآ"), (0xFEF7, 2, "لأ"), (0xFEF9, 2, "لإ"), (0xFEFB, 2, "لا")]

/-- Whether a character is a vowel sign, a stretched stroke or a punctuation mark. -/
def isSign (c : Char) : Bool :=
  (0x64B ≤ c.toNat && c.toNat ≤ 0x652) || c.toNat = 0x640 || oneOf ".,;:?!/*%،؛؟٪٫٬" c

/-- The plain text of one character. -/
def plain (c : Char) : List Char :=
  if isSign c then []
  else if 0x660 ≤ c.toNat && c.toNat ≤ 0x669 then [Char.ofNat (c.toNat - 0x660 + '0'.toNat)]
  else
    match presentationForms.find? fun f => f.1 ≤ c.toNat && c.toNat < f.1 + f.2.1 with
    | some f => f.2.2.toList
    | none => [c]

/-- The plain text of a word. A quotation mark goes with a backslash before it. -/
def prepare : List Char → List Char
  | '\\' :: '"' :: cs => prepare cs
  | c :: cs => plain c ++ prepare cs
  | [] => []

/-- Suffixes that go from a word of at least the given length. -/
abbrev Endings := List (List String × Nat)

/-- Take off the longest of the suffixes, if the word is long enough. -/
def Endings.off (e : Endings) (w : List Char) : Option (List Char) :=
  ((Table.ofGroups e).longest? 0 w).bind fun found =>
    if found.1 ≤ w.length then some found.2 else none

/-- The pronouns after a verb. -/
def verbPronoun : Endings :=
  [(["ه", "ك"], 4), (["ني", "نا", "ها", "هم", "هن", "كم", "كن"], 5), (["هما", "كما", "كمو"], 6)]

/-- The endings of a verb. -/
def verbEnding : Endings :=
  [(["ت"], 4), (["ا", "ن", "ي"], 4), (["نا", "تا", "تن"], 5), (["ان", "ون", "ين"], 6),
   (["تما"], 6)]

/-- The endings of a verb that has no pronoun. -/
def bareVerbEnding : Endings := [(["وا", "تم"], 5)]

/-- The endings of a verb that come before a pronoun. -/
def boundVerbEnding : Endings := [(["و"], 4), (["تمو"], 6)]

/-- The pronouns after a noun. -/
def nounPronoun : Endings :=
  [(["ي", "ك", "ه"], 4), (["نا", "كم", "ها", "هن", "هم"], 5), (["كما", "هما"], 6)]

/-- The final `n` of a dual or plural. -/
def nounN : Endings := [(["ن"], 6)]

/-- The vowels of a dual or plural. -/
def nounVowel : Endings := [(["ا", "ي", "و"], 5)]

/-- The feminine plural. -/
def nounAt : Endings := [(["ات"], 5)]

/-- The feminine ending before a pronoun. -/
def nounT : Endings := [(["ت"], 4)]

/-- The feminine ending at the end of a word. -/
def nounFeminine : Endings := [(["ة"], 4)]

/-- The ending that makes an adjective. -/
def nounAdjective : Endings := [(["ي"], 3)]

/-- Take off pronouns as long as there are any. The first argument bounds their number. -/
def verbPronouns : Nat → List Char → List Char
  | 0, w => w
  | n + 1, w => (verbPronoun.off w).elim w (verbPronouns n)

/-- Take the suffixes of a verb off, and tell whether there were any. -/
def verbSuffix (w : List Char) : List Char × Bool :=
  let bare := verbPronouns w.length w
  if bare.length < w.length then
    (((verbEnding.off bare).or (boundVerbEnding.off bare)).getD bare, true)
  else
    match (bareVerbEnding.off bare).or (verbEnding.off bare) with
    | some w' => (w', true)
    | none => (bare, false)

/-- What stands before the pronoun of a noun. -/
def beforePronoun (w : List Char) : Option (List Char) :=
  ((nounVowel.off w).or (nounAt.off w)).or (nounT.off w)

/-- Take the suffixes of a noun off up to the ending of an adjective. -/
def nounSuffix (defined : Bool) (w : List Char) : List Char :=
  match nounFeminine.off w with
  | some w' => w'
  | none =>
    let bare := if defined then none else nounPronoun.off w
    match bare with
    | some p => (beforePronoun p).getD p
    | none =>
      let noN := (nounN.off w).getD w
      let dual := if noN.length < w.length then beforePronoun noN else none
      match dual with
      | some w' => w'
      | none => ((if defined then none else nounVowel.off noN).or (nounAt.off noN)).getD noN

/-- Take the suffixes off a reversed word; a final dotless `y` is written with its dots where
nothing else is to be done. -/
def suffixes (kind : Kind) (w : List Char) : List Char :=
  let asVerb := if kind.verb then verbSuffix w else (w, false)
  if asVerb.2 then asVerb.1
  else
    let asNoun := if kind.noun then nounSuffix kind.defined asVerb.1 else asVerb.1
    match if kind.noun then nounAdjective.off asNoun else none with
    | some w' => w'
    | none =>
      match asNoun with
      | 'ى' :: rest => 'ي' :: rest
      | _ => asNoun

/-- A word with the letters at its beginning that are settled, and the letters after them. -/
abbrev Split := List Char × List Char

/-- The longest of the prefixes, in a word of at least the given length, written as the table
says. What is written is settled. -/
def swapStart (table : List (List String × Nat × String)) (p : Split) : Option Split :=
  (initial? table p.2).bind fun found =>
    if found.1.1 ≤ p.1.length + p.2.length then some (p.1 ++ found.1.2.toList, found.2) else none

/-- One hamza for two. -/
def hamza : Split → Option Split :=
  swapStart
    [(["أأ"], 4, "أ"), (["أآ"], 4, "آ"), (["أؤ"], 4, "أ"), (["أا"], 4, "ا"), (["أإ"], 4, "إ")]

/-- Take a conjunction off, unless an alef follows. -/
def conjunction (p : Split) : Option Split :=
  if ((dropInitial? "فا".toList p.2).or (dropInitial? "وا".toList p.2)).isSome then none
  else swapStart [(["ف", "و"], 4, "")] p

/-- Take the article off, with a preposition before it. -/
def article : Split → Option Split :=
  swapStart [(["بال", "كال"], 6, ""), (["لل", "ال"], 5, "")]

/-- Take a preposition off a noun, unless an alef follows. -/
def preposition (p : Split) : Option Split :=
  if (dropInitial? "با".toList p.2).isSome then none
  else swapStart [(["ب"], 4, ""), (["بب"], 4, "ب"), (["كك"], 4, "ك")] p

/-- Take the mark of the future off a verb. -/
def future : Split → Option Split :=
  swapStart [(["سي"], 5, "ي"), (["ست"], 5, "ت"), (["سن"], 5, "ن"), (["سأ"], 5, "أ")]

/-- Write one beginning for the tenth form of a verb. -/
def tenthForm : Split → Option Split :=
  swapStart [(["يست", "نست", "تست"], 5, "است")]

/-- Take the prefixes off a word. -/
def prefixes (kind : Kind) (word : List Char) : List Char :=
  let start : Split := ([], word)
  let p := (hamza start).getD start
  let p := (conjunction p).getD p
  let p :=
    match (article p).or (if kind.noun then preposition p else none) with
    | some q => q
    | none =>
      if kind.verb then
        let q := (future p).getD p
        (tenthForm q).getD q
      else p
  p.1 ++ p.2

/-- Write a final hamza without its carrier, and any other as its carrier alone. -/
def finish (word : List Char) : List Char :=
  let bareEnd := match word.reverse with
    | c :: rest => if oneOf "أإآؤئ" c then ('ء' :: rest).reverse else word
    | [] => []
  respell [('أ', 'ا'), ('إ', 'ا'), ('آ', 'ا'), ('ؤ', 'و'), ('ئ', 'ي')] bareEnd

/-- The Arabic stem of a word. -/
def stem (word : List Char) : List Char :=
  let kind := kindOf word
  let bare := (suffixes kind (prepare word).reverse).reverse
  finish (prefixes kind bare)

end TextAnalysis.Stem.Arabic
