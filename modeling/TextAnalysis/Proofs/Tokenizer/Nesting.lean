import TextAnalysis.Proofs.Settings.Rendering
import TextAnalysis.Proofs.Tokenizer.Registration
import TextAnalysis.StopWords.Store

/-!
# Stemming tokenizers over stemming tokenizers

A stemming tokenizer tells the one that it wraps which characters to take in and to split at, if there are some.
Of diacritics it tells only a plain Unicode tokenizer. So where it wraps another stemming tokenizer, what this was
registered with decides on diacritics, and on characters of which the outer settings have none.
-/

namespace TextAnalysis

open StopWords

namespace Settings

/-! ### Settings with the characters of others -/

/-- The settings with the characters of others, where these have some. -/
def overlaidBy (inner outer : Settings) : Settings :=
  { inner with
    tokenCharacters := if outer.tokenCharacters = "" then inner.tokenCharacters else outer.tokenCharacters
    separators := if outer.separators = "" then inner.separators else outer.separators }

/-- Any settings accept what others tell a wrapped tokenizer of characters, and are overlaid by it. -/
theorem applyArguments_overrideArguments (inner outer : Settings) :
    inner.applyArguments outer.overrideArguments = (.ok (), inner.overlaidBy outer) := by
  have nothing : Asks [] [] := .nil
  have asks := Asks.characters .tokenCharacters outer.tokenCharacters
    (Asks.characters .separators outer.separators nothing)
  rw [List.append_nil, List.append_nil] at asks
  refine applyArguments_eq_ok_iff.mpr ⟨_, asks, ?_⟩
  rw [overlaidBy]
  split
  · split <;> rfl
  · split <;> rfl

private theorem diacritics_eq_iff {s s' : Settings} :
    s.diacritics = s'.diacritics ↔ s.removeDiacritics = s'.removeDiacritics := by
  rw [diacritics, diacritics]
  cases s.removeDiacritics <;> cases s'.removeDiacritics <;> decide

private theorem overlay_eq_iff {inner outer : String} :
    (if outer = "" then inner else outer) = outer ↔ (outer = "" → inner = "") := by
  split
  · next none => simp [none]
  · next some => simp [some]

/-- Settings that are overlaid say of words what those above say just if both treat diacritics alike and the
ones below have no characters where the ones above have none. -/
theorem words_overlaidBy_eq_iff {inner outer : Settings} :
    (⟨(inner.overlaidBy outer).diacritics, (inner.overlaidBy outer).overrides⟩ : UnicodeWords) =
        ⟨outer.diacritics, outer.overrides⟩ ↔
      inner.removeDiacritics = outer.removeDiacritics ∧
        (outer.tokenCharacters = "" → inner.tokenCharacters = "") ∧
        (outer.separators = "" → inner.separators = "") := by
  rw [UnicodeWords.mk.injEq, diacritics_eq_iff, overrides, overrides, Overrides.mk.injEq, String.toList_inj,
    String.toList_inj]
  exact and_congr Iff.rfl (and_congr overlay_eq_iff overlay_eq_iff)

end Settings

/-! ### What is built -/

variable {S L : Type}

namespace Factory

/-- Without arguments the settings are those of the factory. -/
theorem create_stemming_nil (settings : Settings) (store : S) (innerName : String) (inner : Factory S) :
    (stemming settings store innerName inner).create (L := L) [] =
      wrap settings store innerName inner.create := rfl

/-- Told of the characters of others, a factory over a plain one makes tokenizers of the overlaid settings. -/
theorem create_overrideArguments (inner outer : Settings) (store : S) (kind : Plain) :
    (stemming inner store kind.name kind.factory).create (L := L) outer.overrideArguments =
      inner.cascade.map fun cascade =>
        .stemming (kind.tokenizer (inner.overlaidBy outer)) ⟨cascade, inner.minTokenLength⟩ { store } := by
  rw [create, Settings.applyArguments_overrideArguments]
  exact kind.wrap_factory (inner.overlaidBy outer) store

end Factory

namespace Registry

section Registered

variable {r r' : Registry S} {inner : Settings} {innerStore : S}
  (unicode : r.find? Plain.unicode.name = some Plain.unicode.factory)
  (registered : r.registerStemming inner innerStore = .ok r')
include unicode registered

/-- Settings that are registered have known languages. Afterwards the Unicode tokenizer is found as before, and so
are the stemming tokenizers of these settings. -/
private theorem registration_cases :
    (∃ languages, inner.resolve = .ok languages) ∧
      r'.find? Plain.unicode.name = some Plain.unicode.factory ∧
      r'.find? Tokenizer.stemmingName =
        some (.stemming inner innerStore Plain.unicode.name Plain.unicode.factory) := by
  rw [registerStemming_of_find? unicode] at registered
  cases known : inner.resolve with
  | error e => rw [known] at registered; cases registered
  | ok languages =>
    rw [known] at registered
    obtain rfl := Except.ok.inj registered
    refine ⟨⟨languages, rfl⟩, ?_, ?_⟩
    · rw [find?_register, if_neg (by decide), unicode]
    · rw [find?_register, if_pos rfl]

/-- Built over the Unicode tokenizer, a stemming tokenizer wraps the one that its settings describe. -/
private theorem build_direct (outer : Settings) (store : S) :
    r'.build (L := L) outer store none =
      outer.cascade.map fun cascade =>
        .stemming (Plain.unicode.tokenizer outer) ⟨cascade, outer.minTokenLength⟩ { store } := by
  obtain ⟨-, usual, -⟩ := registration_cases unicode registered
  rw [build, (stemmingFactory_of_find? usual outer store).1]
  dsimp only
  rw [Factory.create_stemming_nil]
  exact Plain.unicode.wrap_factory outer store

/-- Built over the stemming tokenizers that are registered, it wraps one of these, around the one that their
settings describe with the characters of its own. -/
private theorem build_nested (outer : Settings) (store : S) :
    ∃ innerCascade, inner.cascade = .ok innerCascade ∧
      r'.build (L := L) outer store (some Tokenizer.stemmingName) =
        outer.cascade.map fun cascade =>
          .stemming
            (.stemming (Plain.unicode.tokenizer (inner.overlaidBy outer)) ⟨innerCascade, inner.minTokenLength⟩
              { store := innerStore })
            ⟨cascade, outer.minTokenLength⟩ { store } := by
  obtain ⟨⟨languages, known⟩, usual, stemming⟩ := registration_cases unicode registered
  obtain ⟨innerCascade, found, -⟩ := Settings.cascade_of_resolve known
  have told : Factory.innerArguments Tokenizer.stemmingName outer = outer.overrideArguments :=
    if_neg (by decide)
  refine ⟨innerCascade, found, ?_⟩
  rw [build, (stemmingFactory_of_find? usual outer store).2 _ _ stemming]
  dsimp only
  rw [Factory.create_stemming_nil, Factory.wrap, told, Factory.create_overrideArguments, found]
  cases outer.cascade <;> rfl

/-- Where settings are registered over the Unicode tokenizer, others of known languages can be built over it, and
over the stemming tokenizers that are registered. In the first case the Unicode tokenizer treats diacritics and
characters as these others say. In the second one the settings that are registered decide on diacritics, and on
characters where the others have none. So in both cases the Unicode tokenizer is the same just if all of them treat
diacritics alike and those that are registered have no characters where the others have none. -/
theorem nested_words (outer : Settings) (store : S) {languages : List Language}
    (known : outer.resolve = .ok languages) :
    ∃ cascade innerCascade, outer.cascade = .ok cascade ∧ inner.cascade = .ok innerCascade ∧
      r'.build (L := L) outer store none =
        .ok (.stemming (.unicode ⟨outer.diacritics, outer.overrides⟩) ⟨cascade, outer.minTokenLength⟩
          { store }) ∧
      r'.build (L := L) outer store (some Tokenizer.stemmingName) =
        .ok (.stemming
          (.stemming (.unicode ⟨inner.diacritics, (inner.overlaidBy outer).overrides⟩)
            ⟨innerCascade, inner.minTokenLength⟩ { store := innerStore })
          ⟨cascade, outer.minTokenLength⟩ { store }) ∧
      ((⟨inner.diacritics, (inner.overlaidBy outer).overrides⟩ : UnicodeWords) =
          ⟨outer.diacritics, outer.overrides⟩ ↔
        inner.removeDiacritics = outer.removeDiacritics ∧
          (outer.tokenCharacters = "" → inner.tokenCharacters = "") ∧
          (outer.separators = "" → inner.separators = "")) := by
  obtain ⟨cascade, found, -⟩ := Settings.cascade_of_resolve known
  obtain ⟨innerCascade, foundInner, nested⟩ := build_nested (L := L) unicode registered outer store
  have direct := build_direct (L := L) unicode registered outer store
  rw [found] at direct nested
  exact ⟨cascade, innerCascade, found, foundInner, direct, nested, Settings.words_overlaidBy_eq_iff⟩

end Registered

/-- A dash and the removal of diacritics that were registered reach the Unicode tokenizer, beside the dot. -/
theorem nested_words_of_dash_and_dot :
    let inner : Settings := { tokenCharacters := "-" }
    let outer : Settings := { languages := ["fr"], removeDiacritics := false, separators := "." }
    let r : Registry Store := plain.register Tokenizer.stemmingName
      (.stemming inner (.memory 0) Plain.unicode.name Plain.unicode.factory)
    (plain : Registry Store).find? Plain.unicode.name = some Plain.unicode.factory ∧
      (plain : Registry Store).registerStemming inner (.memory 0) = .ok r ∧
      outer.resolve = .ok [.french] ∧
      ∃ cascade innerCascade, r.build (L := Lookup) outer (.memory 1) (some Tokenizer.stemmingName) =
        .ok (.stemming
          (.stemming (.unicode ⟨.removeSingle, { tokenChars := ['-'], separators := ['.'] }⟩)
            ⟨innerCascade, 3⟩ { store := .memory 0 })
          ⟨cascade, 3⟩ { store := .memory 1 }) := by
  intro inner outer r
  have unicode : (plain : Registry Store).find? Plain.unicode.name = some Plain.unicode.factory :=
    find?_plain .unicode
  have registered : (plain : Registry Store).registerStemming inner (.memory 0) = .ok r := by rfl
  have known : outer.resolve = .ok [.french] := by rfl
  have words : (inner.overlaidBy outer).overrides = { tokenChars := ['-'], separators := ['.'] } := by decide
  obtain ⟨cascade, innerCascade, -, -, -, nested, -⟩ :=
    nested_words (L := Lookup) unicode registered outer (.memory 1) known
  rw [words] at nested
  exact ⟨unicode, registered, known, cascade, innerCascade, nested⟩

/-- Settings that keep diacritics do so over the Unicode tokenizer, but not over stemming tokenizers of the usual
settings. -/
theorem collect_nested_umlaut :
    let outer : Settings := { removeDiacritics := false }
    let access : Access Store Lookup Unit := ({} : Holdings).access
    let collected (inner : Option String) : Except Error (List Token) := do
      let r ← (plain : Registry Store).registerStemming {} (.memory 0)
      let t ← r.build outer (.memory 0) inner
      (t.collect access "Äpfel" .forDocument ()).1
    outer.resolve = .ok [.english] ∧ collected none = .ok [⟨"äpfel", 0, 6, false⟩] ∧
      collected (some Tokenizer.stemmingName) = .ok [⟨"apfel", 0, 6, false⟩] := by
  intro outer access collected
  exact ⟨rfl, by decide +kernel, by decide +kernel⟩

end Registry

end TextAnalysis
