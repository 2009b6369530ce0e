import Mathlib.Data.List.Forall2
import TextAnalysis.Proofs.Stem.Language
import TextAnalysis.Proofs.Text.Numeral
import TextAnalysis.Proofs.Tokenizer.Arguments
import TextAnalysis.Settings.Arguments

/-!
# Laws of settings from construction arguments

Arguments fall into units in one way. A unit asks for something or has a fault. If every unit asks for something
they are accepted, and then all is granted: of what concerns one key the last counts, and the languages that are
named replace those before. So only the order of the units of one key matters, and granting the same again changes
nothing.
-/

namespace TextAnalysis.Settings

/-! ### Units -/

/-- The units that arguments are. A key takes the next argument, whatever this is; only at the end is there
none. Any other argument names a language. -/
inductive Splits : List String → List ArgumentUnit → Prop
  | nil : Splits [] []
  | assign (key : Key) {value inner : String} {rest : List String} {units : List ArgumentUnit}
      (unquotes : Unquotes value inner) (more : Splits rest units) :
      Splits (key.name :: value :: rest) (.assign key inner :: units)
  | dangling (key : Key) : Splits [key.name] [.dangling key]
  | language {word inner : String} {rest : List String} {units : List ArgumentUnit}
      (noKey : ∀ key : Key, word ≠ key.name) (unquotes : Unquotes word inner) (more : Splits rest units) :
      Splits (word :: rest) (.language inner :: units)

private theorem Key.ofName?_name (key : Key) : Key.ofName? key.name = some key := by
  cases key <;> decide

private theorem Key.eq_name_of_ofName? {s : String} {key : Key} (h : Key.ofName? s = some key) :
    s = key.name := by
  have found := List.find?_some h
  exact (of_decide_eq_true found).symm

private theorem Key.ofName?_eq_none_iff {s : String} :
    Key.ofName? s = none ↔ ∀ key : Key, s ≠ key.name := by
  constructor
  · rintro h key rfl
    rw [Key.ofName?_name] at h
    cases h
  · intro noKey
    exact Option.eq_none_iff_forall_ne_some.mpr fun key h => noKey key (Key.eq_name_of_ofName? h)

private theorem unitsOf_cons {word : String} (noKey : Key.ofName? word = none) (rest : List String) :
    unitsOf (word :: rest) = .language (unquoted word) :: unitsOf rest := by
  cases rest with
  | nil => simp only [unitsOf, noKey]
  | cons value rest => simp only [unitsOf, noKey]

/-- Arguments are units in one way. -/
theorem splits_iff {arguments : List String} {units : List ArgumentUnit} :
    Splits arguments units ↔ units = unitsOf arguments := by
  constructor
  · intro splits
    induction splits with
    | nil => rfl
    | assign key unquotes _ ih =>
      rw [unitsOf, Key.ofName?_name, ← unquotes_iff.mp unquotes, ih]
    | dangling key => rw [unitsOf, Key.ofName?_name]
    | language noKey unquotes _ ih =>
      rw [unitsOf_cons (Key.ofName?_eq_none_iff.mpr noKey), ← unquotes_iff.mp unquotes, ih]
  · rintro rfl
    induction arguments using unitsOf.induct with
    | case1 => exact .nil
    | case2 argument key isKey =>
      rw [Key.eq_name_of_ofName? isKey, unitsOf, Key.ofName?_name]
      exact .dangling key
    | case3 argument noKey =>
      rw [unitsOf_cons noKey]
      exact .language (Key.ofName?_eq_none_iff.mp noKey) (unquotes_iff.mpr rfl) .nil
    | case4 argument value rest key isKey ih =>
      rw [Key.eq_name_of_ofName? isKey, unitsOf, Key.ofName?_name]
      exact .assign key (unquotes_iff.mpr rfl) ih
    | case5 argument value rest noKey ih =>
      rw [unitsOf_cons noKey]
      exact .language (Key.ofName?_eq_none_iff.mp noKey) (unquotes_iff.mpr rfl) ih

/-! ### Requests -/

/-- What a unit asks for. -/
inductive Request where
  | removeDiacritics (flag : Bool)
  | tokenCharacters (characters : String)
  | separators (characters : String)
  | minTokenLength (length : Nat)
  | language (language : Language)
deriving Repr, DecidableEq

namespace Request

/-- The treatment of diacritics that is asked for. -/
def removeDiacritics? : Request → Option Bool
  | removeDiacritics flag => some flag
  | _ => none

/-- The characters that are asked to be taken into tokens. -/
def tokenCharacters? : Request → Option String
  | tokenCharacters characters => some characters
  | _ => none

/-- The characters that are asked to be split at. -/
def separators? : Request → Option String
  | separators characters => some characters
  | _ => none

/-- The length that is asked for. -/
def minTokenLength? : Request → Option Nat
  | minTokenLength length => some length
  | _ => none

/-- The language that is asked for. -/
def language? : Request → Option Language
  | language l => some l
  | _ => none

end Request

/-- What a unit means. A value that is none of a key's and a word that names no language mean nothing, and
neither does a key without a value. -/
inductive Means : ArgumentUnit → Request → Prop
  | keepDiacritics : Means (.assign .removeDiacritics "0") (.removeDiacritics false)
  | removeDiacritics : Means (.assign .removeDiacritics "1") (.removeDiacritics true)
  | tokenCharacters (characters : String) :
      Means (.assign .tokenChars characters) (.tokenCharacters characters)
  | separators (characters : String) : Means (.assign .separators characters) (.separators characters)
  | minTokenLength {value : String} {length : Nat}
      (numeral : Text.IsCountNumeral length (Text.trim value).toList) :
      Means (.assign .minTokenLength value) (.minTokenLength length)
  | language {word : String} {l : Language}
      (identifies : Text.asciiLowercase (Text.trim word) ∈ l.identifiers) :
      Means (.language word) (.language l)

/-- The canonical names of the languages that are asked for, in order. -/
def requestedLanguages (requests : List Request) : List String :=
  (requests.filterMap Request.language?).map Language.name

/-- The settings with all that is asked for. What is asked for last counts, and all languages do. -/
def granting (s : Settings) (requests : List Request) : Settings where
  languages := if requestedLanguages requests = [] then s.languages else requestedLanguages requests
  removeDiacritics := (requests.filterMap Request.removeDiacritics?).getLast?.getD s.removeDiacritics
  tokenCharacters := (requests.filterMap Request.tokenCharacters?).getLast?.getD s.tokenCharacters
  separators := (requests.filterMap Request.separators?).getLast?.getD s.separators
  minTokenLength := (requests.filterMap Request.minTokenLength?).getLast?.getD s.minTokenLength

/-- What a unit is found to ask for. -/
def ArgumentUnit.request? : ArgumentUnit → Option Request
  | .assign .removeDiacritics value =>
    if value = "0" then some (.removeDiacritics false)
    else if value = "1" then some (.removeDiacritics true)
    else none
  | .assign .tokenChars value => some (.tokenCharacters value)
  | .assign .separators value => some (.separators value)
  | .assign .minTokenLength value => (Text.count? (Text.trim value)).map .minTokenLength
  | .language word => (Language.ofIdentifier? word).map .language
  | .dangling _ => none

/-- A unit is found to ask for what it means. -/
theorem means_iff {unit : ArgumentUnit} {request : Request} :
    Means unit request ↔ unit.request? = some request := by
  constructor
  · intro means
    cases means with
    | keepDiacritics => rfl
    | removeDiacritics => rfl
    | tokenCharacters => rfl
    | separators => rfl
    | minTokenLength numeral =>
      rw [ArgumentUnit.request?, Text.count?_eq_some_iff.mpr numeral, Option.map_some]
    | language identifies =>
      rw [ArgumentUnit.request?, Language.ofIdentifier?_eq_some_iff.mpr identifies, Option.map_some]
  · intro found
    cases unit with
    | assign key value =>
      cases key with
      | removeDiacritics =>
        rw [ArgumentUnit.request?] at found
        split at found
        · next value_eq =>
          obtain rfl := Option.some.inj found
          rw [value_eq]
          exact .keepDiacritics
        · obtain ⟨value_eq, found⟩ := Option.ite_none_right_eq_some.mp found
          obtain rfl := Option.some.inj found
          rw [value_eq]
          exact .removeDiacritics
      | tokenChars =>
        obtain rfl := Option.some.inj found
        exact .tokenCharacters value
      | separators =>
        obtain rfl := Option.some.inj found
        exact .separators value
      | minTokenLength =>
        rw [ArgumentUnit.request?] at found
        obtain ⟨length, count, rfl⟩ := Option.map_eq_some_iff.mp found
        exact .minTokenLength (Text.count?_eq_some_iff.mp count)
    | language word =>
      rw [ArgumentUnit.request?] at found
      obtain ⟨l, identified, rfl⟩ := Option.map_eq_some_iff.mp found
      exact .language (Language.ofIdentifier?_eq_some_iff.mp identified)
    | dangling key => cases found

/-! ### Faults -/

/-- What is wrong with a unit: the value is none of its key's, the word names no language, or the key has no
value. -/
inductive Faults : ArgumentUnit → Error → Prop
  | removeDiacritics {value : String} (notOff : value ≠ "0") (notOn : value ≠ "1") :
      Faults (.assign .removeDiacritics value)
        (.configuration ("remove_diacritics must be 0 or 1, got '" ++ value ++ "'"))
  | minTokenLength {value : String}
      (noNumeral : ∀ length, ¬Text.IsCountNumeral length (Text.trim value).toList) :
      Faults (.assign .minTokenLength value)
        (.invalidArgument ("min_token_length must be a non-negative integer, got '" ++ value ++ "'"))
  | language {word : String}
      (unknown : ∀ l : Language, Text.asciiLowercase (Text.trim word) ∉ l.identifiers) :
      Faults (.language word) (.configuration ("unsupported stemmer language '" ++ word ++ "'"))
  | dangling (key : Key) :
      Faults (.dangling key) (.configuration ("missing value for argument '" ++ key.name ++ "'"))

/-- A unit that means nothing has a fault. -/
theorem means_or_faults (unit : ArgumentUnit) :
    (∃ request, Means unit request) ∨ ∃ e, Faults unit e := by
  cases unit with
  | assign key value =>
    cases key with
    | removeDiacritics =>
      by_cases off : value = "0"
      · rw [off]
        exact .inl ⟨_, .keepDiacritics⟩
      · by_cases on : value = "1"
        · rw [on]
          exact .inl ⟨_, .removeDiacritics⟩
        · exact .inr ⟨_, .removeDiacritics off on⟩
    | tokenChars => exact .inl ⟨_, .tokenCharacters value⟩
    | separators => exact .inl ⟨_, .separators value⟩
    | minTokenLength =>
      by_cases numeral : ∃ length, Text.IsCountNumeral length (Text.trim value).toList
      · obtain ⟨length, numeral⟩ := numeral
        exact .inl ⟨_, .minTokenLength numeral⟩
      · exact .inr ⟨_, .minTokenLength fun length isNumeral => numeral ⟨length, isNumeral⟩⟩
  | language word =>
    by_cases known : ∃ l : Language, Text.asciiLowercase (Text.trim word) ∈ l.identifiers
    · obtain ⟨l, identifies⟩ := known
      exact .inl ⟨_, .language identifies⟩
    · exact .inr ⟨_, .language fun l identifies => known ⟨l, identifies⟩⟩
  | dangling key => exact .inr ⟨_, .dangling key⟩

/-- Units all mean something, or there is a first one with a fault. -/
theorem forall₂_means_or_exists_faults (units : List ArgumentUnit) :
    (∃ requests, List.Forall₂ Means units requests) ∨
      ∃ front offending back requests e, units = front ++ offending :: back ∧
        List.Forall₂ Means front requests ∧ Faults offending e := by
  induction units with
  | nil => exact .inl ⟨[], .nil⟩
  | cons unit units ih =>
    obtain ⟨request, means⟩ | ⟨e, faults⟩ := means_or_faults unit
    · obtain ⟨requests, rest⟩ | ⟨front, offending, back, requests, e, rfl, rest, faults⟩ := ih
      · exact .inl ⟨request :: requests, .cons means rest⟩
      · exact .inr ⟨unit :: front, offending, back, request :: requests, e, rfl, .cons means rest, faults⟩
    · exact .inr ⟨[], unit, units, [], e, rfl, .nil, faults⟩

/-! ### Granting requests -/

/-- The settings with the values that are asked for. The languages stay. -/
def grantingValues (s : Settings) (requests : List Request) : Settings :=
  { s.granting requests with languages := s.languages }

/-- Of what concerns one field the last counts, so what comes first may be granted before. -/
theorem last_append {α : Type} (field : Request → Option α) (front back : List Request) (usual : α) :
    ((front ++ back).filterMap field).getLast?.getD usual =
      (back.filterMap field).getLast?.getD ((front.filterMap field).getLast?.getD usual) := by
  rw [List.filterMap_append, List.getLast?_append]
  cases (back.filterMap field).getLast? <;> rfl

section Assign

variable {key : Key} {value : String} {request : Request} (means : Means (.assign key value) request)
include means

private theorem requestedLanguages_assign (requests : List Request) :
    requestedLanguages (request :: requests) = requestedLanguages requests := by
  cases means <;> rfl

/-- What a unit with a key asks for is granted at once. -/
private theorem grantingValues_assign (s : Settings) (requests : List Request) :
    (s.granting [request]).grantingValues requests = s.grantingValues (request :: requests) := by
  have usual : (s.granting [request]).languages = s.languages := by
    rw [granting, requestedLanguages_assign means]
    rfl
  have split : request :: requests = [request] ++ requests := rfl
  rw [grantingValues, grantingValues, usual]
  simp only [granting, split, last_append]

private theorem assign_of_means (s : Settings) : s.assign key value = .ok (s.granting [request]) := by
  cases means with
  | keepDiacritics => rfl
  | removeDiacritics => rfl
  | tokenCharacters => rfl
  | separators => rfl
  | minTokenLength numeral =>
    rw [assign, parseLength, Text.count?_eq_some_iff.mpr numeral]
    rfl

end Assign

/-- Of units that mean something the values are granted at once, and the languages are kept for the end. -/
theorem applyUnits_append {front : List ArgumentUnit} {requests : List Request}
    (means : List.Forall₂ Means front requests) (s : Settings) (named : List String)
    (rest : List ArgumentUnit) :
    s.applyUnits named (front ++ rest) =
      (s.grantingValues requests).applyUnits (named ++ requestedLanguages requests) rest := by
  induction means generalizing s named with
  | nil =>
    rw [requestedLanguages, List.filterMap_nil, List.map_nil, List.append_nil]
    rfl
  | @cons unit request units requests first _ ih =>
    rw [List.cons_append]
    cases unit with
    | assign key value =>
      rw [applyUnits, assign_of_means first]
      dsimp only
      rw [ih, grantingValues_assign first, requestedLanguages_assign first]
    | language word =>
      cases first with
      | language identifies =>
        rw [applyUnits, Language.parse, Language.ofIdentifier?_eq_some_iff.mpr identifies]
        dsimp only
        rw [ih, List.append_assoc]
        rfl
    | dangling key => cases first

/-- A unit with a fault ends the reading. -/
theorem applyUnits_of_faults {offending : ArgumentUnit} {e : Error} (faults : Faults offending e)
    (s : Settings) (named : List String) (back : List ArgumentUnit) :
    s.applyUnits named (offending :: back) = (.error e, s) := by
  cases faults with
  | removeDiacritics notOff notOn => rw [applyUnits, assign, if_neg notOff, if_neg notOn]
  | minTokenLength noNumeral =>
    rw [applyUnits, assign, parseLength, Option.eq_none_iff_forall_ne_some.mpr fun length count =>
      noNumeral length (Text.count?_eq_some_iff.mp count)]
  | language unknown =>
    rw [applyUnits, Language.parse, Option.eq_none_iff_forall_ne_some.mpr fun l identified =>
      unknown l (Language.ofIdentifier?_eq_some_iff.mp identified)]
  | dangling key => rw [applyUnits]

/-- If each unit means something, all that they ask for is granted. -/
private theorem applyUnits_of_means {units : List ArgumentUnit} {requests : List Request}
    (means : List.Forall₂ Means units requests) (s : Settings) :
    s.applyUnits [] units = (.ok (), s.granting requests) := by
  have applied := applyUnits_append means s [] []
  rw [List.append_nil, List.nil_append, applyUnits] at applied
  rw [applied, grantingValues, granting]
  split <;> rfl

/-- Arguments are accepted just if their units all mean something, and then what these ask for is granted. -/
theorem applyArguments_eq_ok_iff {s s' : Settings} {arguments : List String} :
    s.applyArguments arguments = (.ok (), s') ↔
      ∃ requests, List.Forall₂ Means (unitsOf arguments) requests ∧ s' = s.granting requests := by
  have granted {requests : List Request} (means : List.Forall₂ Means (unitsOf arguments) requests) :
      s.applyArguments arguments = (.ok (), s.granting requests) := applyUnits_of_means means s
  constructor
  · intro applied
    obtain ⟨requests, means⟩ | ⟨front, offending, back, requests, e, units, means, faults⟩ :=
      forall₂_means_or_exists_faults (unitsOf arguments)
    · rw [granted means] at applied
      exact ⟨requests, means, (Prod.mk.inj applied).2.symm⟩
    · rw [applyArguments, units, applyUnits_append means, applyUnits_of_faults faults] at applied
      cases applied
  · rintro ⟨requests, means, rfl⟩
    exact granted means

/-- What has been granted may be granted again. -/
theorem granting_granting (s : Settings) (requests : List Request) :
    (s.granting requests).granting requests = s.granting requests := by
  have again {α : Type} (last : Option α) (usual : α) : last.getD (last.getD usual) = last.getD usual := by
    cases last <;> rfl
  simp only [granting, again]
  congr 1
  split <;> rfl

/-! ### The order of units -/

/-- The key of a unit. Words that name languages have none. -/
def ArgumentUnit.key? : ArgumentUnit → Option Key
  | .assign key _ => some key
  | .language _ => none
  | .dangling key => some key

private theorem means_filterMap {units : List ArgumentUnit}
    (mean : ∀ unit ∈ units, ∃ request, Means unit request) :
    List.Forall₂ Means units (units.filterMap ArgumentUnit.request?) := by
  induction units with
  | nil => exact .nil
  | cons unit units ih =>
    obtain ⟨⟨request, first⟩, mean⟩ := List.forall_mem_cons.mp mean
    rw [List.filterMap_cons_some (means_iff.mp first)]
    exact .cons first (ih mean)

private theorem forall₂_means_iff {units : List ArgumentUnit} {requests : List Request} :
    List.Forall₂ Means units requests ↔ units.map ArgumentUnit.request? = requests.map some := by
  rw [← List.forall₂_eq_eq_eq, List.forall₂_map_left_iff, List.forall₂_map_right_iff]
  exact ⟨fun means => means.imp fun _ _ => means_iff.mp, fun found => found.imp fun _ _ => means_iff.mpr⟩

private theorem eq_filterMap_of_means {units : List ArgumentUnit} {requests : List Request}
    (means : List.Forall₂ Means units requests) : requests = units.filterMap ArgumentUnit.request? := by
  have found := congrArg (List.filterMap id) (forall₂_means_iff.mp means)
  rw [List.filterMap_map, List.filterMap_map] at found
  exact List.filterMap_some.symm.trans found.symm

private theorem exists_means_of_mem {units : List ArgumentUnit} {requests : List Request}
    (means : List.Forall₂ Means units requests) {unit : ArgumentUnit} (mem : unit ∈ units) :
    ∃ request, Means unit request := by
  have found := List.mem_map_of_mem (f := ArgumentUnit.request?) mem
  rw [forall₂_means_iff.mp means] at found
  obtain ⟨request, -, eq⟩ := List.mem_map.mp found
  exact ⟨request, means_iff.mpr eq.symm⟩

/-- The key of the units that ask for something. -/
def Request.key? : Request → Option Key
  | removeDiacritics _ => some .removeDiacritics
  | tokenCharacters _ => some .tokenChars
  | separators _ => some .separators
  | minTokenLength _ => some .minTokenLength
  | language _ => none

private theorem Means.key?_eq {unit : ArgumentUnit} {request : Request} (means : Means unit request) :
    request.key? = unit.key? := by
  cases means <;> rfl

/-- What is asked for one field depends on the units of one key. -/
private theorem filterMap_field {α : Type} {field : Request → Option α} {key? : Option Key}
    (ofKey : ∀ request : Request, request.key? ≠ key? → field request = none) (units : List ArgumentUnit) :
    (units.filterMap ArgumentUnit.request?).filterMap field =
      ((units.filter (·.key? = key?)).filterMap ArgumentUnit.request?).filterMap field := by
  rw [List.filterMap_filterMap, List.filterMap_filterMap, List.filterMap_filter]
  refine List.filterMap_congr fun unit _ => ?_
  by_cases same : unit.key? = key?
  · rw [if_pos (decide_eq_true same)]
  · rw [if_neg (by simpa using same)]
    cases asked : unit.request? with
    | none => rfl
    | some request =>
      have key := (means_iff.mpr asked).key?_eq
      exact ofKey request (by rwa [key])

/-- Only the order of the units of each key counts, and that of the words. -/
private theorem granting_congr {units units' : List ArgumentUnit}
    (same : ∀ key?, units'.filter (·.key? = key?) = units.filter (·.key? = key?)) (s : Settings) :
    s.granting (units'.filterMap ArgumentUnit.request?) =
      s.granting (units.filterMap ArgumentUnit.request?) := by
  have agree {α : Type} (field : Request → Option α) (key? : Option Key)
      (ofKey : ∀ request : Request, request.key? ≠ key? → field request = none) :
      (units'.filterMap ArgumentUnit.request?).filterMap field =
        (units.filterMap ArgumentUnit.request?).filterMap field := by
    rw [filterMap_field ofKey units', same, ← filterMap_field ofKey units]
  have languages := agree Request.language? none fun request other => by
    cases request <;> first | rfl | exact absurd rfl other
  have diacritics := agree Request.removeDiacritics? (some .removeDiacritics) fun request other => by
    cases request <;> first | rfl | exact absurd rfl other
  have tokenChars := agree Request.tokenCharacters? (some .tokenChars) fun request other => by
    cases request <;> first | rfl | exact absurd rfl other
  have separators := agree Request.separators? (some .separators) fun request other => by
    cases request <;> first | rfl | exact absurd rfl other
  have length := agree Request.minTokenLength? (some .minTokenLength) fun request other => by
    cases request <;> first | rfl | exact absurd rfl other
  rw [granting, granting, requestedLanguages, requestedLanguages, languages, diacritics, tokenChars,
    separators, length]

/-- Arguments whose units come in the same order for each key, and whose words do, are accepted alike. -/
private theorem applyArguments_of_same {arguments arguments' : List String}
    (same : ∀ key?, (unitsOf arguments').filter (·.key? = key?) = (unitsOf arguments).filter (·.key? = key?))
    {s s' : Settings} (applied : s.applyArguments arguments = (.ok (), s')) :
    s.applyArguments arguments' = (.ok (), s') := by
  obtain ⟨requests, means, rfl⟩ := applyArguments_eq_ok_iff.mp applied
  have mean : ∀ unit ∈ unitsOf arguments', ∃ request, Means unit request := by
    intro unit mem
    have mem' : unit ∈ (unitsOf arguments').filter (·.key? = unit.key?) :=
      List.mem_filter.mpr ⟨mem, decide_eq_true rfl⟩
    rw [same] at mem'
    exact exists_means_of_mem means (List.mem_filter.mp mem').1
  refine applyArguments_eq_ok_iff.mpr ⟨_, means_filterMap mean, ?_⟩
  rw [granting_congr same, ← eq_filterMap_of_means means]

/-- Arguments are units in one way. They are accepted just if every unit means something, and then everything
that the units mean is granted. Units of different keys may change places, and so may words and units of keys,
and what has been accepted changes nothing when it is taken again. -/
theorem arguments_granted (s : Settings) (arguments : List String) :
    ∃ units, (∀ units', Splits arguments units' ↔ units' = units) ∧
      ((s.applyArguments arguments).1 = .ok () ↔ ∀ unit ∈ units, ∃ request, Means unit request) ∧
      (∀ requests, List.Forall₂ Means units requests →
        s.applyArguments arguments = (.ok (), s.granting requests)) ∧
      (∀ arguments' units', Splits arguments' units' →
        (∀ key?, units'.filter (·.key? = key?) = units.filter (·.key? = key?)) →
          ∀ s', s.applyArguments arguments' = (.ok (), s') ↔ s.applyArguments arguments = (.ok (), s')) ∧
      ∀ s', s.applyArguments arguments = (.ok (), s') → s'.applyArguments arguments = (.ok (), s') := by
  refine ⟨unitsOf arguments, fun _ => splits_iff, ⟨?_, ?_⟩, ?_, ?_, ?_⟩
  · intro accepted unit mem
    obtain ⟨requests, means, -⟩ := applyArguments_eq_ok_iff.mp (Prod.ext accepted rfl)
    exact exists_means_of_mem means mem
  · intro mean
    exact congrArg Prod.fst (applyArguments_eq_ok_iff.mpr ⟨_, means_filterMap mean, rfl⟩)
  · intro requests means
    exact applyArguments_eq_ok_iff.mpr ⟨requests, means, rfl⟩
  · intro arguments' units' splits same s'
    obtain rfl := splits_iff.mp splits
    exact ⟨applyArguments_of_same fun key? => (same key?).symm, applyArguments_of_same same⟩
  · intro s' applied
    obtain ⟨requests, means, rfl⟩ := applyArguments_eq_ok_iff.mp applied
    exact applyArguments_eq_ok_iff.mpr ⟨requests, means, (granting_granting s requests).symm⟩

example : Settings.applyArguments {} ["de", "tokenchars", "separators", "'FR '", "min_token_length", " +04"] =
    (.ok (), { languages := ["german", "french"], tokenCharacters := "separators", minTokenLength := 4 }) := by
  rfl

end TextAnalysis.Settings
