/-!
# Suffix rules

The vocabulary in which the stemming algorithms are written. Inside a stemmer a word is held last
letter first, so that a suffix is an initial segment and taking it off leaves the letters before it.
A rule maps such a word to the word it becomes, or to nothing when it does not apply.
-/

namespace TextAnalysis.Stem

/-- Where the regions of a word begin, in letters from its start. A region that the word does not
have begins at its length or beyond. -/
structure Regions where
  rv : Nat
  r1 : Nat
  r2 : Nat
deriving Repr, DecidableEq

/-- A change to the end of a reversed word, or nothing when the rule does not apply. At a suffix, a
rule is given the letters before it. -/
abbrev Rule := Regions → List Char → Option (List Char)

/-- Membership in a set of letters. -/
def oneOf (letters : String) (c : Char) : Bool :=
  letters.toList.contains c

/-- What follows the initial segment `s` of a list, when the list begins with it. -/
def dropInitial? : List Char → List Char → Option (List Char)
  | [], w => some w
  | _ :: _, [] => none
  | a :: s, c :: w => if a = c then dropInitial? s w else none

/-- The letters before `suffix`, when the reversed word ends in it. -/
def strip? (suffix : String) (w : List Char) : Option (List Char) :=
  dropInitial? suffix.toList.reverse w

/-- The reversed word with the text `s` written after it. -/
def append (s : String) (w : List Char) : List Char :=
  s.toList.reverse ++ w

/-- Suffixes and what belongs to each; a suffix is stored last letter first. -/
abbrev Table (α : Type) := List (List Char × α)

/-- The table in which each suffix of a group has the group's value. -/
def Table.ofGroups {α : Type} (groups : List (List String × α)) : Table α :=
  groups.flatMap fun g => g.1.map fun s => (s.toList.reverse, g.2)

/-- The value of the longest suffix in the table that leaves at least `least` letters, with the
letters before it. -/
def Table.longest? {α : Type} (least : Nat) : Table α → List Char → Option (α × List Char)
  | [], _ => none
  | (s, a) :: t, w =>
    match dropInitial? s w with
    | none => longest? least t w
    | some rest =>
      if rest.length < least then longest? least t w
      else
        match longest? least t w with
        | none => some (a, rest)
        | some (b, rest') => if rest'.length < rest.length then some (b, rest') else some (a, rest)

namespace Rule

/-- Leave the letters before the suffix and nothing else. -/
def delete : Rule := fun _ rest => some rest

/-- Write `s` in place of the suffix. -/
def replace (s : String) : Rule := fun _ rest => some (append s rest)

/-- A suffix that is recognised and kept: no rule applies. -/
def keep : Rule := fun _ _ => none

/-- Apply `a` where the suffix lies in the region RV. -/
def inRV (a : Rule) : Rule := fun r w => if r.rv ≤ w.length then a r w else none

/-- Apply `a` where the suffix lies in the region R1. -/
def inR1 (a : Rule) : Rule := fun r w => if r.r1 ≤ w.length then a r w else none

/-- Apply `a` where the suffix lies in the region R2. -/
def inR2 (a : Rule) : Rule := fun r w => if r.r2 ≤ w.length then a r w else none

/-- Apply `a` where the last letter before the suffix is in the class `p`. -/
def after (p : Char → Bool) (a : Rule) : Rule := fun r w =>
  match w with
  | c :: _ => if p c then a r w else none
  | [] => none

/-- Apply `a` where the letters before the suffix do not end in any of the given texts. -/
def unlessAfter (texts : List String) (a : Rule) : Rule := fun r w =>
  if texts.any fun s => (strip? s w).isSome then none else a r w

/-- Apply `a` where the letters before the suffix end in one of the given texts. -/
def onlyAfter (texts : List String) (a : Rule) : Rule := fun r w =>
  if texts.any fun s => (strip? s w).isSome then a r w else none

/-- Take off `s` and apply `a` to what is before it. -/
def suffix (s : String) (a : Rule) : Rule := fun r w => (strip? s w).bind (a r)

/-- The rule of the longest suffix listed. When that rule does not apply, no shorter one is tried. -/
def choose (t : Table Rule) : Rule := fun r w =>
  (t.longest? 0 w).bind fun found => found.1 r found.2

/-- The rule of the longest suffix listed that lies beyond the position `start` gives. -/
def chooseWithin (start : Regions → Nat) (t : Table Rule) : Rule := fun r w =>
  (t.longest? (start r) w).bind fun found => found.1 r found.2

/-- The first rule, or the second where the first does not apply. -/
def orElse (a b : Rule) : Rule := fun r w => (a r w).or (b r w)

/-- Both rules, the second on what the first leaves. -/
def andThen (a b : Rule) : Rule := fun r w => (a r w).bind (b r)

/-- The word after the rule, or the word itself where the rule does not apply. -/
def apply (a : Rule) (r : Regions) (w : List Char) : List Char := (a r w).getD w

/-- The first rule and then, where it applies, the second. -/
def thenTry (a b : Rule) : Rule := fun r w => (a r w).map (b.apply r)

end Rule

/-- What follows the first letter in the class `p`, if there is one. -/
def past? (p : Char → Bool) : List Char → Option (List Char)
  | [] => none
  | c :: cs => if p c then some cs else past? p cs

/-- What follows the first vowel and the first consonant after it. -/
def pastSyllable? (vowel : Char → Bool) (cs : List Char) : Option (List Char) :=
  (past? vowel cs).bind (past? fun c => !vowel c)

/-- The position at which `rest`, a final segment of a word of `n` letters, begins; the end of the
word if there is none. -/
def startOf (n : Nat) (rest : Option (List Char)) : Nat :=
  n - (rest.map List.length).getD 0

namespace Regions

/-- R1 begins after the first vowel and the consonant that follows it, but not before `least`
letters have passed; R2 begins after the next vowel and consonant. A word of fewer than `least`
letters has neither. -/
def ofSyllables (vowel : Char → Bool) (least : Nat) (word : List Char) : Regions :=
  let n := word.length
  if n < least then { rv := n, r1 := n, r2 := n }
  else
    let rest1 := pastSyllable? vowel word
    let rest2 := rest1.bind (pastSyllable? vowel)
    { rv := n, r1 := max least (startOf n rest1), r2 := startOf n rest2 }

/-- What follows the opening of a word in the Romance languages. If the second letter is a
consonant, the opening ends with the next vowel; after two vowels it ends with the next consonant;
otherwise it has three letters. -/
def pastOpening? (vowel : Char → Bool) : List Char → Option (List Char)
  | a :: b :: cs =>
    if vowel a then if vowel b then past? (fun c => !vowel c) cs else past? vowel cs
    else if vowel b then
      match cs with
      | _ :: rest => some rest
      | [] => none
    else past? vowel cs
  | _ => none

/-- The regions of a word in the Romance languages: RV begins after the opening of the word, R1 and
R2 after one and two syllables. -/
def ofOpening (vowel : Char → Bool) (word : List Char) : Regions :=
  { ofSyllables vowel 0 word with rv := startOf word.length (pastOpening? vowel word) }

/-- The regions as they are counted from the position `n` on. -/
def beyond (r : Regions) (n : Nat) : Regions :=
  { rv := r.rv - n, r1 := r.r1 - n, r2 := r.r2 - n }

end Regions

namespace Rule

/-- Take off the last letter. -/
def dropLast : Rule := fun _ w =>
  match w with
  | _ :: rest => some rest
  | [] => none

/-- Apply `a` with only the letters from the position `start` on in sight. -/
def confined (start : Regions → Nat) (a : Rule) : Rule := fun r w =>
  let n := start r
  if w.length < n then none
  else (a (r.beyond n) (w.take (w.length - n))).map (· ++ w.drop (w.length - n))

/-- Apply the rules one after another, each where it applies. -/
def inTurn (rules : List Rule) (r : Regions) (w : List Char) : List Char :=
  rules.foldl (fun w a => a.apply r w) w

/-- The word with its end reduced by the rules in turn. -/
def reduceBy (rules : List Rule) (r : Regions) (word : List Char) : List Char :=
  (inTurn rules r word.reverse).reverse

end Rule

/-- Write each letter that has a mark as the mark, where the letter before it is a vowel. The mark
of a letter comes with whether a vowel must follow as well. A marked letter is no vowel; the flag
tells whether a vowel stands before the letters given. -/
def markAfterVowel (vowel : Char → Bool) (marks : List (Char × Char × Bool)) :
    Bool → List Char → List Char
  | _, [] => []
  | afterVowel, c :: cs =>
    let beforeVowel := (cs.head?.map vowel).getD false
    match marks.lookup c with
    | some (m, needsVowel) =>
      if afterVowel && (!needsVowel || beforeVowel) then m :: markAfterVowel vowel marks false cs
      else c :: markAfterVowel vowel marks (vowel c) cs
    | none => c :: markAfterVowel vowel marks (vowel c) cs

/-- Write letters as the pairs say, and leave the others. -/
def respell (pairs : List (Char × Char)) (word : List Char) : List Char :=
  word.map fun c => (pairs.lookup c).getD c

end TextAnalysis.Stem
