import TextAnalysis.Stem.Rule

/-!
# Tamil stemming

Suffixes go one class after another, and after most of them the end of the word is repaired: sounds
that changed where a suffix joined the stem are restored, and joining letters are taken off.
-/

namespace TextAnalysis.Stem.Tamil

/-- A change to the end of a reversed word, or nothing where it does not apply. -/
abbrev Ending := List Char → Option (List Char)

/-- The consonants that can be doubled where words join. -/
def hard : List String := ["க", "ச", "ட", "த", "ப", "ற"]

/-- The signs of a vowel after which some endings stay. -/
def someSigns : List String := ["ா", "ி", "ீ", "ு", "ூ", "ெ", "ே", "ை"]

/-- Whether the word ends in one of the texts. -/
def endsIn (texts : List String) (w : List Char) : Bool :=
  texts.any fun s => (strip? s w).isSome

/-- Write `into` for the ending `s`. -/
def swap (s into : String) : Ending := fun w => (strip? s w).map (append into)

/-- Write `into` for the ending `s`, unless one of the texts stands before it. -/
def swapUnless (s into : String) (texts : List String) : Ending := fun w =>
  (strip? s w).bind fun rest => if endsIn texts rest then none else some (append into rest)

/-- Write `into` for the ending `s`, where one of the texts stands before it. -/
def swapAfter (s into : String) (texts : List String) : Ending := fun w =>
  (strip? s w).bind fun rest => if endsIn texts rest then some (append into rest) else none

/-- Write `into` for the longest of the endings. -/
def swapAny (endings : List String) (into : String) : Ending := fun w =>
  ((Table.ofGroups [(endings, ())]).longest? 0 w).map fun found => append into found.2

/-- The change of the first that applies. -/
def first (endings : List Ending) : Ending := fun w => endings.findSome? fun e => e w

/-- The change, in a word of at least `n` letters. -/
def ofLength (n : Nat) (e : Ending) : Ending := fun w => if n ≤ w.length then e w else none

/-- Repair the end of a word. The flag tells whether a case ending went. -/
def fixEnding (hadCase : Bool) : Ending :=
  ofLength 4 <| first
    [swapAny ["ந்", "ந்த", "ந்த்"] "",
     swapAfter "ய்" "" ["ை", "ி", "ீ"],
     swap "ட்ப்" "ள்", swap "ட்க்" "ள்",
     swap "ன்ற்" "ல்",
     swap "ற்க்" "ல்",
     swap "ட்ட்" "டு",
     fun w => if hadCase then swapUnless "த்த்" "ம்" ["ை"] w else none,
     swap "ுக்" "்", swap "ுக்க்" "்",
     fun w => (strip? "்" w).bind fun a => (first (hard.map fun c => swap c "") a).bind fun b =>
       (strip? "்" b).bind fun d => first (hard.map fun c => swap c "") d,
     fun w => (strip? "்" w).bind fun a => first (hard.map fun c => swap c "") a,
     fun w => (strip? "்" w).bind fun a =>
       first (["ய", "ர", "ல", "வ", "ழ", "ள", "ங", "ஞ", "ண", "ந", "ம", "ன"].map fun c =>
         swap (("்" : String) ++ c) "்") a,
     swapAny ["வ", "ய", "வ்"] "",
     swapUnless "னு" "" someSigns,
     swapUnless "ங்" "ம்" ["ை"],
     swap "ங்" "",
     swapAfter "்" "" (someSigns ++ ["்"])]

/-- Repair the end of a word as long as there is something to repair. The first argument bounds the
number of repairs. -/
def fixEndings (hadCase : Bool) : Nat → List Char → List Char
  | 0, w => w
  | n + 1, w =>
    match fixEnding hadCase w with
    | some w' => fixEndings hadCase n w'
    | none => w

/-- All repairs of the end of a word. -/
def repaired (hadCase : Bool) (w : List Char) : List Char := fixEndings hadCase (2 * w.length) w

/-- Write the vowel for the glide that stands before it at the beginning of a word. -/
def fixStart : List Char → List Char
  | 'வ' :: 'ோ' :: cs => 'ஓ' :: cs
  | 'வ' :: 'ொ' :: cs => 'ஒ' :: cs
  | 'வ' :: 'ு' :: cs => 'உ' :: cs
  | 'வ' :: 'ூ' :: cs => 'ஊ' :: cs
  | cs => cs

/-- Take a vowel that joins the word with a doubled consonant off its beginning. -/
def dropJoined (vowels : String) (word : List Char) : List Char :=
  match word with
  | v :: c :: '்' :: cs =>
    if oneOf vowels v && oneOf "கசதவநபமயஙஞ" c then fixStart cs else word
  | _ => word

/-- Take off the ending of a question. -/
def question : Ending := ofLength 5 <| swapAny ["ோ", "ே", "ா"] "்"

/-- Take off the ending that says also. -/
def also : Ending := ofLength 5 <| swap "ும்" "்"

/-- Take off a word that is often written together with others. -/
def attached : Ending :=
  ofLength 5 <| first
    [first
      [swap "ுடன்" "்", swap "ில்லை" "்", swap "ிடம்" "்", swap "ின்றி" "்",
       swap "ாகி" "்", swap "ாகிய" "்", swap "ென்று" "்", swap "ுள்ள" "்",
       swap "ுடைய" "்", swap "ுடை" "்", swap "ெனும்" "்",
       swapUnless "ல்ல" "்" someSigns, swap "ென" "்"],
     swapAny
       ["படு", "பட்ட", "பட்டு", "பட்டது", "பட்டண", "குரிய", "பற்றி", "விடு", "விட்டு", "படிதான",
        "படி", "தான", "ெல்லாம்"] ""]

/-- Take off a case ending. -/
def caseEnding : Ending :=
  ofLength 5 <| first
    [swap "னை" "",
     swap "ினை" "்", swapUnless "ை" "்" hard, swapAfter "ை" "்" (hard.map ("்" ++ ·)),
     swap "ொடு" "்", swap "ோடு" "்", swap "ில்" "்", swap "ிற்" "்",
     swapUnless "ின்" "்" ["ம"], swap "ின்று" "்", swap "ிருந்து" "்", swap "விட" "்",
     ofLength 7 (swap "ிடம்" "்"), swap "ால்" "்", swap "ுடை" "்", swap "ாமல்" "்",
     swapUnless "ல்" "்" someSigns, swap "ுள்" "்",
     swap "கண்" "", swap "முன்" "", swap "மேல்" "", swap "மேற்" "", swap "கீழ்" "",
     swap "பின்" "", swapUnless "து" "" someSigns,
     swap "ீ" "ி"]

/-- Take off the ending of the plural. -/
def plural : Ending :=
  first
    [swapUnless "ுங்கள்" "்" hard, swap "ற்கள்" "ல்", swap "ட்கள்" "ள்", swap "கள்" ""]

/-- Take off the ending of a command. -/
def command : Ending := ofLength 5 <| swapAny ["பி", "வி"] ""

/-- Take off the ending of a person and tense. -/
def person : Ending :=
  first
    [swapAny ["கொண்டிர்", "படு"] "",
     first
      [swap "மார்" "", swap "மின்" "", swap "னன்" "", swap "னான்" "",
       swap "னாள்" "", swap "னார்" "",
       swapUnless "வன்" "" ["அ", "ஆ", "இ", "ஈ", "உ", "ஊ", "எ", "ஏ", "ஐ", "ஒ", "ஓ", "ஔ"],
       swap "னள்" "", swap "வள்" "", swap "னர்" "", swap "வர்" "", swap "ன" "",
       swap "ப" "", swap "க" "", swap "த" "", swap "ய" "", swap "பன்" "",
       swap "பள்" "", swap "பர்" "", swapUnless "து" "" someSigns,
       swap "ிற்று" "", swap "பம்" "", swap "னம்" "", swap "தும்" "",
       swap "றும்" "", swap "கும்" "", swap "னென்" "", swap "னை" "", swap "வை" ""],
     first
      [swapUnless "ான்" "்" ["ச"], swap "ாள்" "்", swap "ார்" "்", swap "ேன்" "்",
       swap "ா" "்", swap "ாம்" "்", swap "ெம்" "்", swap "ேம்" "்", swap "ோம்" "்",
       swap "கும்" "்", swap "தும்" "்", swap "டும்" "்", swap "றும்" "்",
       swap "ாய்" "்", swap "னென்" "்", swap "னிர்" "்", swap "ீர்" "்",
       swap "ீயர்" "்"],
     swapAfter "கு" "" ["்"], swapAfter "து" "" ["்"]]

/-- Take off the mark of a tense. -/
def tense : Ending := swapAny ["ாநின்ற", "ாநின்ற்", "கின்ற", "கின்ற்", "கிற", "கிற்"] ""

/-- Take off the endings of a verb as long as there are any. The second argument bounds their
number. -/
def verbEndings (hadCase : Bool) : Nat → List Char → List Char
  | 0, w => w
  | n + 1, w =>
    if w.length < 5 then w
    else
      let bare := (person w).getD w
      let bare' := (tense bare).getD bare
      let fixed := repaired hadCase bare'
      if (person w).isSome || (tense bare).isSome then verbEndings hadCase n fixed else fixed

/-- The word after an ending and the repairs that follow it, or the word itself without it. -/
def offAndRepaired (hadCase : Bool) (e : Ending) (w : List Char) : List Char :=
  ((e w).map (repaired hadCase)).getD w

/-- Take off the ending of a question and repair the end in any case, in a word of some length. -/
def withoutQuestion (w : List Char) : List Char :=
  if w.length < 5 then w else repaired false ((question w).getD w)

/-- Take off the endings of a reversed word. -/
def endings (w : List Char) : List Char :=
  let w := withoutQuestion w
  let w := ((also w).map fun w' => (fixEnding false w').getD w').getD w
  let w := offAndRepaired false attached w
  let hadCase := (caseEnding w).isSome
  let w := offAndRepaired hadCase caseEnding w
  let w := (plural w).getD w
  let w := (command w).getD w
  verbEndings hadCase (2 * w.length) w

/-- The Tamil stem of a word. -/
def stem (word : List Char) : List Char :=
  let w := ((fixEnding false word.reverse).getD word.reverse).reverse
  if w.length < 5 then w
  else (endings (dropJoined "அஇஉ" (dropJoined "எ" w)).reverse).reverse

end TextAnalysis.Stem.Tamil
