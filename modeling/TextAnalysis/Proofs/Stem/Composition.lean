import TextAnalysis.Proofs.Text.Span
import TextAnalysis.Stem.Cascade

/-!
# Cascades of several parts

A cascade decides on a token by the first of its languages whose stem has another length in bytes. So a cascade of
two parts decides as its first part does, where this decides at all, and as the second one otherwise. This holds
whatever the languages make of a token.
-/

namespace TextAnalysis

/-! ### What may be left out of a search -/

/-- What is not looked for may be left out. -/
theorem find?_filter_of_idle {α : Type} {p keep : α → Bool} {items : List α}
    (idle : ∀ item ∈ items, keep item = false → p item = false) :
    (items.filter keep).find? p = items.find? p := by
  induction items with
  | nil => rfl
  | cons item items ih =>
    obtain ⟨idleFirst, idle⟩ := List.forall_mem_cons.mp idle
    rw [List.filter_cons]
    split
    · rw [List.find?_cons, List.find?_cons, ih idle]
    · next left =>
      rw [ih idle, List.find?_cons, idleFirst (Bool.eq_false_iff.mpr left)]

/-- What is repeated is found where it stands first. -/
theorem find?_eraseDups {α : Type} [BEq α] [LawfulBEq α] (p : α → Bool) (items : List α) :
    items.eraseDups.find? p = items.find? p := by
  match items with
  | [] => rfl
  | item :: items =>
    rw [List.eraseDups_cons, List.find?_cons, List.find?_cons]
    split
    · rfl
    · next idle =>
      rw [find?_eraseDups p, find?_filter_of_idle]
      rintro other - left
      have same : other = item := by simpa using left
      rw [same, idle]
termination_by items.length
decreasing_by exact Nat.lt_succ_of_le (List.length_filter_le ..)

namespace Cascade

variable (stemOf : Language → List Char → List Char)

/-- The stem of a token in languages of which each stems as `stemOf` says. -/
def stemBy (languages : List Language) (token : String) : String :=
  String.ofList (stemWith (languages.map stemOf) token.toList)

/-- Whether the stem of a token in a language has another length in bytes. -/
def changes (token : String) (l : Language) : Bool :=
  Text.byteLength (stemOf l token.toList) ≠ token.utf8ByteSize

/-- The stem that is taken is that of the first language that changes the length. -/
theorem firstChange?_map (token : String) (languages : List Language) :
    firstChange? token.toList (languages.map stemOf) =
      (languages.find? (changes stemOf token)).map (stemOf · token.toList) := by
  induction languages with
  | nil => rfl
  | cons l languages ih =>
    rw [List.map_cons, firstChange?, List.find?_cons, ih, changes, Text.byteLength_toList]
    split
    · next changed => rw [decide_eq_true changed, Option.map_some]
    · next same => rw [decide_eq_false same]

/-- The language that decides on a token: the first that changes its length, if the token is stemmed at all. -/
def decider? (languages : List Language) (token : String) : Option Language :=
  if leastStemLength ≤ token.utf8ByteSize ∧ token.utf8ByteSize ≤ greatestStemLength then
    languages.find? (changes stemOf token)
  else none

variable {stemOf} {languages : List Language} {token : String}

/-- The language that decides stems the token itself. Where none decides, the token stays as it is. -/
theorem stemBy_eq :
    stemBy stemOf languages token =
      match decider? stemOf languages token with
      | some l => String.ofList (stemOf l token.toList)
      | none => token := by
  rw [stemBy, stemWith, decider?, firstChange?_map, Text.byteLength_toList]
  split
  · cases languages.find? (changes stemOf token) with
    | none => exact String.ofList_toList
    | some l => rfl
  · exact String.ofList_toList

theorem changes_of_decider? {l : Language} (decides : decider? stemOf languages token = some l) :
    changes stemOf token l = true := by
  rw [decider?, Option.ite_none_right_eq_some] at decides
  exact List.find?_some decides.2

/-- The length changes just if a language decides. -/
theorem utf8ByteSize_stemBy_eq_iff :
    (stemBy stemOf languages token).utf8ByteSize = token.utf8ByteSize ↔
      decider? stemOf languages token = none := by
  rw [stemBy_eq]
  cases decides : decider? stemOf languages token with
  | none => simp
  | some l =>
    have changed := of_decide_eq_true (changes_of_decider? decides)
    simpa [Text.utf8ByteSize_ofList] using changed

theorem decider?_append (first second : List Language) :
    decider? stemOf (first ++ second) token =
      (decider? stemOf first token).or (decider? stemOf second token) := by
  rw [decider?, decider?, decider?, List.find?_append]
  split <;> rfl

/-- The first part decides where it changes the length, and else the second. -/
theorem stemBy_append (first second : List Language) :
    stemBy stemOf (first ++ second) token =
      if (stemBy stemOf first token).utf8ByteSize ≠ token.utf8ByteSize then stemBy stemOf first token
      else stemBy stemOf second token := by
  cases decides : decider? stemOf first token with
  | none =>
    have same := utf8ByteSize_stemBy_eq_iff.mpr decides
    rw [if_neg (not_not_intro same), stemBy_eq, decider?_append, decides, Option.none_or, stemBy_eq]
  | some l =>
    have changed : (stemBy stemOf first token).utf8ByteSize ≠ token.utf8ByteSize := fun same => by
      rw [utf8ByteSize_stemBy_eq_iff.mp same] at decides
      cases decides
    rw [if_pos changed, stemBy_eq, decider?_append, decides, Option.some_or, stemBy_eq, decides]

/-- A token stays as it is unless its length changes. -/
theorem stemBy_eq_self (same : (stemBy stemOf languages token).utf8ByteSize = token.utf8ByteSize) :
    stemBy stemOf languages token = token := by
  rw [stemBy_eq, utf8ByteSize_stemBy_eq_iff.mp same]

/-- Languages that leave the length of a token may be left out. -/
theorem stemBy_of_find?_eq {languages' : List Language}
    (same : languages'.find? (changes stemOf token) = languages.find? (changes stemOf token)) :
    stemBy stemOf languages' token = stemBy stemOf languages token := by
  rw [stemBy_eq, stemBy_eq, decider?, decider?, same]

/-- Languages make one cascade, whose stems follow from those of each language alone, whatever these are. A token
of 3 to 64 bytes is stemmed by the first language whose stem has another length in bytes; if there is none it stays
as it is, and so does any other token. Therefore what two lists of languages make of a token is what the first one
does if this has another length, and else what the second one does; a token that keeps its length is the same
token; languages after one that changes the length do not matter, and neither does a language that is repeated. -/
theorem first_change_decides (stemOf : Language → List Char → List Char) (token : String) :
    (∀ languages, languages ≠ [] → ∃ c, ofLanguages languages = .ok c ∧ c.languages = languages ∧
      c.stem token = stemBy Language.stem languages token) ∧
    (∀ first second, stemBy stemOf (first ++ second) token =
      if (stemBy stemOf first token).utf8ByteSize ≠ token.utf8ByteSize then stemBy stemOf first token
      else stemBy stemOf second token) ∧
    (3 ≤ token.utf8ByteSize → token.utf8ByteSize ≤ 64 → ∀ languages, stemBy stemOf languages token =
      match languages.find? (changes stemOf token) with
      | some l => String.ofList (stemOf l token.toList)
      | none => token) ∧
    (∀ languages, token.utf8ByteSize < 3 ∨ 64 < token.utf8ByteSize → stemBy stemOf languages token = token) ∧
    (∀ languages, (stemBy stemOf languages token).utf8ByteSize = token.utf8ByteSize →
      stemBy stemOf languages token = token) ∧
    (∀ before l after, changes stemOf token l = true →
      stemBy stemOf (before ++ l :: after) token = stemBy stemOf (before ++ [l]) token) ∧
    (∀ before l after, stemBy stemOf (before ++ l :: after.filter (· ≠ l)) token =
      stemBy stemOf (before ++ l :: after) token) ∧
    ∀ languages, stemBy stemOf languages.eraseDups token = stemBy stemOf languages token := by
  refine ⟨?_, stemBy_append, ?_, ?_, fun _ => stemBy_eq_self, ?_, ?_, ?_⟩
  · intro languages named
    exact ⟨⟨languages, named⟩, dif_neg named, rfl, rfl⟩
  · intro least greatest languages
    rw [stemBy_eq, decider?, if_pos ⟨least, greatest⟩]
  · intro languages out
    have unstemmed : decider? stemOf languages token = none := by
      refine if_neg fun stemmed => ?_
      simp only [leastStemLength, greatestStemLength] at stemmed
      omega
    rw [stemBy_eq, unstemmed]
  · intro before l after changed
    refine stemBy_of_find?_eq ?_
    rw [List.find?_append, List.find?_append, List.find?_cons, List.find?_cons, changed]
  · intro before l after
    refine stemBy_of_find?_eq ?_
    rw [List.find?_append, List.find?_append, List.find?_cons, List.find?_cons]
    cases changed : changes stemOf token l with
    | true => rfl
    | false =>
      rw [find?_filter_of_idle]
      rintro other - left
      have same : other = l := by simpa using left
      rw [same, changed]
  · intro languages
    exact stemBy_of_find?_eq (find?_eraseDups _ languages)

/-- Swedish leaves the length of the first word and English decides. Both change the length of the second, and the
one that comes first decides. -/
example : stemBy Language.stem [.swedish, .english] "running" = "run" ∧
    stemBy Language.stem [.swedish, .english] "cares" = "car" ∧
    stemBy Language.stem [.english, .swedish] "cares" = "care" := by
  decide +kernel

end Cascade

end TextAnalysis
