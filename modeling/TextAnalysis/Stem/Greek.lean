import TextAnalysis.Stem.Rule

/-!
# Greek stemming

The letters are made small and lose their accents first, and a final sigma is written as any other.
Each step takes an ending off and may then put a part of it back, depending on the stem that is
left. The general endings go only from a word that no step of this kind has changed.
-/

namespace TextAnalysis.Stem.Greek

open Rule

/-- The vowels. -/
def vowel : Char → Bool := oneOf "αεηιουω"

/-- The vowels other than upsilon. -/
def vowelNotUpsilon : Char → Bool := oneOf "αεηιοω"

/-- The small letter without accents. -/
def plainLetters : List (Char × Char) :=
  [('Α', 'α'), ('Β', 'β'), ('Γ', 'γ'), ('Δ', 'δ'), ('Ε', 'ε'), ('Ζ', 'ζ'), ('Η', 'η'),
   ('Θ', 'θ'), ('Ι', 'ι'), ('Κ', 'κ'), ('Λ', 'λ'), ('Μ', 'μ'), ('Ν', 'ν'), ('Ξ', 'ξ'),
   ('Ο', 'ο'), ('Π', 'π'), ('Ρ', 'ρ'), ('Σ', 'σ'), ('Τ', 'τ'), ('Υ', 'υ'), ('Φ', 'φ'),
   ('Χ', 'χ'), ('Ψ', 'ψ'), ('Ω', 'ω'), ('Ά', 'α'), ('Έ', 'ε'), ('Ή', 'η'), ('Ί', 'ι'),
   ('Ό', 'ο'), ('Ύ', 'υ'), ('Ώ', 'ω'), ('Ϊ', 'ι'), ('Ϋ', 'υ'), ('ΐ', 'ι'), ('ά', 'α'),
   ('έ', 'ε'), ('ή', 'η'), ('ί', 'ι'), ('ΰ', 'υ'), ('ς', 'σ'), ('ϊ', 'ι'), ('ϋ', 'υ'),
   ('ό', 'ο'), ('ύ', 'υ'), ('ώ', 'ω')]

/-- When a part of an ending goes back onto a stem. -/
inductive Condition where
  /-- The stem is one of these. -/
  | whole (stems : List String)
  /-- The stem ends in one of these. -/
  | ends (endings : List String)
  /-- The stem ends in none of these. -/
  | endsNot (endings : List String)
  /-- The stem ends in one of the first and in none of the second. -/
  | endsButNot (endings others : List String)
  /-- The stem ends in a letter of a class. -/
  | letter (p : Char → Bool)

/-- Whether a reversed stem meets the condition. -/
def Condition.holds : Condition → List Char → Bool
  | whole stems, w => stems.any fun s => w == s.toList.reverse
  | ends endings, w => endings.any fun s => (strip? s w).isSome
  | endsNot endings, w => !endings.any fun s => (strip? s w).isSome
  | endsButNot endings others, w =>
    (endings.any fun s => (strip? s w).isSome) && !others.any fun s => (strip? s w).isSome
  | letter p, w => (w.head?.map p).getD false

/-- The endings that a step takes off, and what may go back onto the stem or come off it as well.
After most steps the general endings stay. Some whole words are written in a way of their own. -/
structure Step where
  endings : List String
  wholeWords : List (String × String) := []
  restore : List (Condition × String) := []
  shorten : List String × Nat := ([], 0)
  leavesGeneral : Bool := false

/-- The stem after a step, or nothing where no ending of the step is found. -/
def Step.run (s : Step) (w : List Char) : Option (List Char) :=
  ((Table.ofGroups [(s.endings, ())]).longest? 0 w).map fun found =>
    match s.restore.find? fun c => c.1.holds found.2 with
    | some c => append c.2 found.2
    | none =>
      if (Condition.whole s.shorten.1).holds found.2 then found.2.drop s.shorten.2 else found.2

/-- Nouns with an irregular stem. -/
def irregular : Table String :=
  Table.ofGroups
    [(["φαγια", "φαγιου", "φαγιων"], "φα"),
     (["σκαγια", "σκαγιου", "σκαγιων"], "σκα"),
     (["ολογια", "ολογιου", "ολογιων"], "ολο"),
     (["σογια", "σογιου", "σογιων"], "σο"),
     (["τατογια", "τατογιου", "τατογιων"], "τατο"),
     (["κρεασ", "κρεατοσ", "κρεατα", "κρεατων"], "κρε"),
     (["περασ", "περατοσ", "περατα", "περατη", "περατων"], "περ"),
     (["τερασ", "τερατοσ", "τερατα", "τερατων"], "τερ"),
     (["φωσ", "φωτοσ", "φωτα", "φωτων"], "φω"),
     (["καθεστωσ", "καθεστωτοσ", "καθεστωτα", "καθεστωτων"], "καθεστ"),
     (["γεγονοσ", "γεγονοτοσ", "γεγονοτα", "γεγονοτων"], "γεγον")]

/-- The steps for derived verbs, nouns and adjectives. -/
def derivations : List Step :=
  [{ endings := ["ιζα", "ιζεσ", "ιζε", "ιζαμε", "ιζατε", "ιζαν", "ιζανε", "ιζω", "ιζεισ", "ιζει",
       "ιζουμε", "ιζετε", "ιζουν", "ιζουνε"],
     restore :=
       [(.whole ["αναμπα", "εμπα", "επα", "ξαναπα", "πα", "περιπα", "αθρο", "συναθρο", "δανε"], "ι"),
        (.whole ["μαρκ", "κορν", "αμπαρ", "αρρ", "βαθυρι", "βαρκ", "β", "βολβορ", "γκρ", "γλυκορ",
          "γλυκυρ", "ιμπ", "λ", "λου", "μαρ", "μ", "πρ", "μπρ", "πολυρ", "π", "ρ", "πιπερορ"],
          "ιζ")] },
   { endings := ["ωθηκα", "ωθηκεσ", "ωθηκε", "ωθηκαμε", "ωθηκατε", "ωθηκαν", "ωθηκανε"],
     restore := [(.whole ["αλ", "βι", "εν", "υψ", "λι", "ζω", "σ", "χ"], "ων")] },
   { endings := ["ισα", "ισεσ", "ισε", "ισαμε", "ισατε", "ισαν", "ισανε"],
     wholeWords := [("ισα", "ισ")],
     restore :=
       [(.whole ["αναμπα", "αθρο", "εμπα", "εσε", "εσωκλε", "επα", "ξαναπα", "επε", "περιπα",
          "συναθρο", "δανε", "κλε", "χαρτοπα", "εξαρχα", "μετεπε", "αποκλε", "απεκλε", "εκλε",
          "πε"], "ι"),
        (.whole ["αν", "αφ", "γε", "γιγαντ", "οαφ", "γκε", "δημοκρατ", "κομ", "γκ", "μ", "π", "πουκαμ",
          "ολο", "λαρ"], "ισ")] },
   { endings := ["ισω", "ισεισ", "ισει", "ισουμε", "ισετε", "ισουν", "ισουνε"],
     restore :=
       [(.whole ["αναμπα", "εμπα", "εσε", "εσωκλε", "επα", "ξαναπα", "επε", "περιπα", "αθρο",
          "συναθρο", "δανε", "κλε", "χαρτοπα", "εξαρχα", "μετεπε", "αποκλε", "απεκλε", "εκλε",
          "πε"], "ι")] },
   { endings := ["ιστοσ", "ιστου", "ιστο", "ιστε", "ιστοι", "ιστων", "ιστουσ", "ιστη", "ιστησ",
       "ιστα", "ιστεσ"],
     restore :=
       [(.whole ["δανε", "συναθρο", "κλε", "σε", "εσωκλε", "ασε", "πλε"], "ι"),
        (.whole ["μ", "π", "απ", "αρ", "ηδ", "κτ", "σκ", "σχ", "υψ", "φα", "χρ", "χτ", "ακτ", "αορ",
          "ασχ", "ατα", "αχν", "αχτ", "γεμ", "γυρ", "εμπ", "ευπ", "εχθ", "ηφα", "καθ", "κακ",
          "κυλ", "λυγ", "μακ", "μεγ", "ταχ", "φιλ", "χωρ"], "ιστ")] },
   { endings := ["ισμο", "ισμοι", "ισμοσ", "ισμου", "ισμουσ", "ισμων"],
     restore :=
       [(.whole ["σε", "μετασε", "μικροσε", "εγκλε", "αποκλε"], "ισμ"),
        (.whole ["δανε", "αντιδανε"], "ι")],
     shorten := (["αγνωστικ", "ατομικ", "γνωστικ", "εθνικ", "εκλεκτικ", "σκεπτικ", "τοπικ",
       "αλεξανδριν", "βυζαντιν", "θεατριν"], 2) },
   { endings := ["αρακι", "αρακια", "ουδακι", "ουδακια"],
     restore := [(.whole ["σ", "χ"], "αρακ")] },
   { endings := ["ακι", "ακια", "ιτσα", "ιτσασ", "ιτσεσ", "ιτσων", "αρακι", "αρακια"],
     restore :=
       [(.whole ["ανθρ", "βαμβ", "βρ", "καιμ", "κον", "κορ", "λαβρ", "λουλ", "μερ", "μουστ",
          "ναγκασ", "πλ", "ρ", "ρυ", "σ", "σκ", "σοκ", "σπαν", "τζ", "φαρμ", "χ", "καπακ", "αλισφ",
          "αμβρ", "κ", "φυλ", "κατραπ", "κλιμ", "μαλ", "σλοβ", "φ", "σφ", "τσεχοσλοβ"], "ακ"),
        (.whole ["β", "βαλ", "γιαν", "γλ", "ζ", "ηγουμεν", "καρδ", "μακρυν", "νυφ", "πατερ",
          "π", "τοσ", "τριπολ"], "ιτσ"),
        (.ends ["κορ"], "ιτσ")] },
   { endings := ["ιδιο", "ιδια", "ιδιων"],
     restore := [(.whole ["αιφν", "ιρ", "ολο", "ψαλ"], "ιδ"), (.ends ["ε", "παιχν"], "ιδ")] },
   { endings := ["ισκοσ", "ισκου", "ισκο", "ισκε"],
     restore := [(.whole ["δ", "ιβ", "μην", "ρ", "φραγκ", "λυκ", "οβελ"], "ισκ")] }]

/-- Write the stem of an irregular noun. -/
def irregularNoun (w : List Char) : Option (List Char) :=
  (irregular.longest? 0 w).map fun found => append found.1 found.2

/-- The steps for the endings of nouns and adjectives. -/
def declensions : List Step :=
  [{ endings := ["αδεσ", "αδων"],
     restore := [(.endsNot ["οκ", "μαμ", "μαν", "μπαμπ", "πατερ", "γιαγι", "νταντ", "κυρ", "θει",
       "πεθερ"], "αδ")],
     leavesGeneral := true },
   { endings := ["εδεσ", "εδων"],
     restore := [(.ends ["οπ", "ιπ", "εμπ", "υπ", "γηπ", "δαπ", "κρασπ", "μιλ"], "εδ")],
     leavesGeneral := true },
   { endings := ["ουδεσ", "ουδων"],
     restore := [(.ends ["αρκ", "καλιακ", "πεταλ", "λιχ", "πλεξ", "σκ", "σ", "φλ", "φρ", "βελ",
       "λουλ", "χν", "σπ", "τραγ", "φε"], "ουδ")],
     leavesGeneral := true },
   { endings := ["εωσ", "εων"],
     restore := [(.whole ["θ", "δ", "ελ", "γαλ", "ν", "π", "ιδ", "παρ"], "ε")] },
   { endings := ["ια", "ιου", "ιων"], restore := [(.letter vowel, "ι")] },
   { endings := ["ικα", "ικο", "ικου", "ικων"],
     restore :=
       [(.letter vowel, "ικ"),
        (.whole ["αλ", "αδ", "ενδ", "αμαν", "αμμοχαλ", "ηθ", "ανηθ", "αντιδ", "φυσ", "βρωμ", "γερ",
          "εξωδ", "καλπ", "καλλιν", "καταδ", "μουλ", "μπαν", "μπαγιατ", "μπολ", "μποσ", "νιτ",
          "ξικ", "συνομηλ", "πετσ", "πιτσ", "πικαντ", "πλιατσ", "ποστελν", "πρωτοδ", "σερτ",
          "συναδ", "τσαμ", "υποδ", "φιλον", "φυλοδ", "χασ"], "ικ")] }]

/-- The steps for the endings of verbs. -/
def conjugations : List Step :=
  [{ endings := ["αγαμε", "ησαμε", "ουσαμε", "ηκαμε", "ηθηκαμε"],
     wholeWords := [("αγαμε", "αγαμ")] },
   { endings := ["αμε"],
     restore := [(.whole ["αναπ", "αποθ", "αποκ", "αποστ", "βουβ", "ξεθ", "ουλ", "πεθ", "πικρ",
       "ποτ", "σιχ", "χ"], "αμ")] },
   { endings := ["αγανε", "ησανε", "ουσανε", "ιοντανε", "ιοτανε", "ιουντανε", "οντανε", "οτανε",
       "ουντανε", "ηκανε", "ηθηκανε"],
     restore := [(.whole ["τρ", "τσ"], "αγαν")] },
   { endings := ["ανε"],
     restore :=
       [(.letter vowelNotUpsilon, "αν"),
        (.whole ["βετερ", "βουλκ", "βραχμ", "γ", "δραδουμ", "θ", "καλπουζ", "καστελ", "κορμορ",
          "λαοπλ", "μωαμεθ", "μ", "μουσουλμ", "ουλ", "π", "πελεκ", "πλ", "πολισ", "πορτολ",
          "σαρακατσ", "σουλτ", "τσαρλατ", "ορφ", "τσιγγ", "τσοπ", "φωτοστεφ", "χ", "ψυχοπλ", "αγ",
          "γαλ", "γερ", "δεκ", "διπλ", "αμερικαν", "ουρ", "πιθ", "πουριτ", "σ", "ζωντ", "ικ",
          "καστ", "κοπ", "λιχ", "λουθηρ", "μαιντ", "μελ", "σιγ", "σπ", "στεγ", "τραγ", "τσαγ", "φ",
          "ερ", "αδαπ", "αθιγγ", "αμηχ", "ανικ", "ανοργ", "απηγ", "απιθ", "ατσιγγ", "βασ", "βασκ",
          "βαθυγαλ", "βιομηχ", "βραχυκ", "διατ", "διαφ", "ενοργ", "θυσ", "καπνοβιομηχ", "καταγαλ",
          "κλιβ", "κοιλαρφ", "λιβ", "μεγλοβιομηχ", "μικροβιομηχ", "νταβ", "ξηροκλιβ", "ολιγοδαμ",
          "ολογαλ", "πενταρφ", "περηφ", "περιτρ", "πλατ", "πολυδαπ", "πολυμηχ", "στεφ", "ταβ",
          "τετ", "υπερηφ", "υποκοπ", "χαμηλοδαπ", "ψηλοταβ"], "αν")] },
   { endings := ["ησετε"] },
   { endings := ["ετε"],
     restore :=
       [(.letter vowelNotUpsilon, "ετ"),
        (.ends ["οδ", "αιρ", "φορ", "ταθ", "διαθ", "σχ", "ενδ", "ευρ", "τιθ", "υπερθ", "ραθ", "ενθ",
          "ροθ", "σθ", "πυρ", "αιν", "συνδ", "συν", "συνθ", "χωρ", "πον", "βρ", "καθ", "ευθ", "εκθ",
          "νετ", "ρον", "αρκ", "βαρ", "βολ", "ωφελ"], "ετ"),
        (.whole ["αβαρ", "βεν", "εναρ", "αβρ", "αδ", "αθ", "αν", "απλ", "βαρον", "ντρ", "σκ", "κοπ",
          "μπορ", "νιφ", "παγ", "παρακαλ", "σερπ", "σκελ", "συρφ", "τοκ", "υ", "δ", "εμ", "θαρρ",
          "θ"], "ετ")] },
   { endings := ["οντασ", "ωντασ"],
     restore := [(.whole ["αρχ"], "οντ"), (.ends ["κρε"], "ωντ")] },
   { endings := ["ομαστε", "ιομαστε"], restore := [(.whole ["ον"], "ομαστ")] },
   { endings := ["ιεστε"],
     restore := [(.whole ["π", "απ", "συμπ", "ασυμπ", "ακαταπ", "αμεταμφ"], "ιεστ")] },
   { endings := ["εστε"],
     restore := [(.whole ["αλ", "αρ", "εκτελ", "ζ", "μ", "ξ", "παρακαλ", "προ", "νισ"], "ιεστ")] },
   { endings := ["ηθηκα", "ηθηκεσ", "ηθηκε"] },
   { endings := ["ηκα", "ηκεσ", "ηκε"],
     restore :=
       [(.ends ["σκωλ", "σκουλ", "ναρθ", "σφ", "οθ", "πιθ"], "ηκ"),
        (.whole ["διαθ", "θ", "παρακαταθ", "προσθ", "συνθ"], "ηκ")] },
   { endings := ["ουσα", "ουσεσ", "ουσε"],
     restore :=
       [(.whole ["φαρμακ", "χαδ", "αγκ", "αναρρ", "βρομ", "εκλιπ", "λαμπιδ", "λεχ", "μ", "πατ", "ρ",
          "λ", "μεδ", "μεσαζ", "υποτειν", "αμ", "αιθ", "ανηκ", "δεσποζ", "ενδιαφερ",
          "δε", "δευτερευ", "καθαρευ", "πλε", "τσα"], "ουσ"),
        (.ends ["ποδαρ", "βλεπ", "πανταχ", "φρυδ", "μαντιλ", "μαλλ", "κυματ", "λαχ", "ληγ", "φαγ",
          "ομ", "πρωτ"], "ουσ")] },
   { endings := ["αγα", "αγεσ", "αγε"],
     restore :=
       [(.ends ["κολλ"], "αγ"),
        (.whole ["αβαστ", "πολυφ", "αδηφ", "παμφ", "ρ", "ασπ", "αφ", "αμαλ", "αμαλλι", "ανυστ",
          "απερ", "ασπαρ", "αχαρ", "δερβεν", "δροσοπ", "ξεφ", "νεοπ", "νομοτ", "ολοπ", "ομοτ",
          "προστ", "προσωποπ", "συμπ", "συντ", "τ", "υποτ", "χαρ", "αειπ", "αιμοστ", "ανυπ", "αποτ",
          "αρτιπ", "διατ", "εν", "επιτ", "κροκαλοπ", "σιδηροπ", "λ", "ναυ", "ουλαμ", "ουρ", "π",
          "τρ", "μ"], "αγ"),
        (.endsButNot ["οφ", "πελ", "χορτ", "λλ", "σφ", "ρπ", "φρ", "πρ", "λοχ", "σμην"]
          ["ψοφ", "ναυλοχ"], "αγ")] },
   { endings := ["ησε", "ησου", "ησα"],
     restore :=
       [(.whole ["ν", "χερσον", "δωδεκαν", "ερημον", "μεγαλον", "επταν"], "ησ")] },
   { endings := ["ηστε"],
     restore :=
       [(.whole ["ασβ", "σβ", "αχρ", "χρ", "απλ", "αειμν", "δυσχρ", "ευχρ", "κοινοχρ", "παλιμψ"],
         "ηστ")] },
   { endings := ["ουνε", "ησουνε", "ηθουνε"],
     restore := [(.whole ["ν", "ρ", "σπι", "στραβομουτσ", "κακομουτσ", "εξων"], "ουν")] },
   { endings := ["ουμε", "ησουμε", "ηθουμε"],
     restore :=
       [(.whole ["παρασουσ", "φ", "χ", "ωριοπλ", "αζ", "αλλοσουσ", "ασουσ"], "ουμ")] }]

/-- The general endings, which go from a word that no other step has changed. -/
def general : Step :=
  { endings :=
      ["α", "αγατε", "αγαν", "αει", "αμαι", "αν", "ασ", "ασαι", "αται", "αω", "ε", "ει", "εισ",
       "ειτε", "εσαι", "εσ", "εται", "ι", "ιεμαι", "ιεμαστε", "ιεται", "ιεσαι", "ιεσαστε",
       "ιομασταν", "ιομουν", "ιομουνα", "ιονταν", "ιοντουσαν", "ιοσασταν", "ιοσαστε", "ιοσουν",
       "ιοσουνα", "ιοταν", "ιουμα", "ιουμαστε", "ιουνται", "ιουνταν", "η", "ηδεσ", "ηδων", "ηθει",
       "ηθεισ", "ηθειτε", "ηθηκατε", "ηθηκαν", "ηθουν", "ηθω", "ηκατε", "ηκαν", "ησ", "ησαν",
       "ησατε", "ησει", "ησεσ", "ησουν", "ησω", "ο", "οι", "ομαι", "ομασταν", "ομουν", "ομουνα",
       "ονται", "ονταν", "οντουσαν", "οσ", "οσασταν", "οσαστε", "οσουν", "οσουνα", "οταν", "ου",
       "ουμαι", "ουμαστε", "ουν", "ουνται", "ουνταν", "ουσ", "ουσαν", "ουσατε", "υ", "υσ", "ω",
       "ων"] }

/-- The endings of comparison. -/
def comparison : Step :=
  { endings := ["εστερ", "εστατ", "οτερ", "οτατ", "υτερ", "υτατ", "ωτερ", "ωτατ"] }

/-- Write the plural and the genitive of a noun in `-μα` as `μα`. -/
def nounInMa (w : List Char) : List Char :=
  match (Table.ofGroups [(["ματα", "ματων", "ματοσ"], ())]).longest? 0 w with
  | some found => append "μα" found.2
  | none => w

/-- The word after a step, and whether the general endings may still go. -/
def advance (state : List Char × Bool) (s : Step) : List Char × Bool :=
  match s.wholeWords.lookup (String.ofList state.1.reverse) with
  | some word => (word.toList.reverse, state.2)
  | none =>
    match s.run state.1 with
    | some w => (w, state.2 && s.leavesGeneral)
    | none => state

/-- The rules in the order in which a plain, reversed word passes them. -/
def reduce (w : List Char) : List Char :=
  let start := match irregularNoun w with
    | some w => (w, false)
    | none => (w, true)
  let state := (derivations ++ declensions ++ conjugations).foldl advance start
  let w := nounInMa state.1
  let w := if state.2 then (general.run w).getD w else w
  (comparison.run w).getD w

/-- The Greek stem of a word. A word of fewer than three letters only loses capitals and accents. -/
def stem (word : List Char) : List Char :=
  let plain := respell plainLetters word
  if plain.length < 3 then plain else (reduce plain.reverse).reverse

end TextAnalysis.Stem.Greek
