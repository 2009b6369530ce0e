import Mathlib.Data.List.Basic
import TextAnalysis.Proofs.Tokenizer.Stemming

/-!
# The plain tokenizers on ASCII texts

The Unicode tokenizer and the ASCII tokenizer are told of the same characters by the same arguments, and
of a text that has no other than ASCII characters they make the same tokens, whatever becomes of
diacritics. Beyond ASCII they differ in what they take for a letter and in what they fold.
-/

namespace TextAnalysis

open StopWords

/-! ### Arguments that both tokenizers understand -/

/-- The arguments that stand where a key is expected: the first of each pair. -/
def keysOf : List String → List String
  | [] => []
  | [key] => [key]
  | key :: _ :: rest => key :: keysOf rest

namespace Overrides

/-- The overrides with one argument more, if the argument is about them. -/
def withArgument? (o : Overrides) (key value : String) : Option Overrides :=
  if key = "tokenchars" then some (o.addTokenChars (unquoted value))
  else if key = "separators" then some (o.addSeparators (unquoted value))
  else none

/-- The overrides with more arguments, if these come in pairs and are all about overrides. -/
def withArguments? : Overrides → List String → Option Overrides
  | o, [] => some o
  | _, [_] => none
  | o, key :: value :: rest =>
    match o.withArgument? key value with
    | some o => withArguments? o rest
    | none => none

/-- An argument is about overrides exactly if its key is one of two. -/
theorem isSome_withArgument?_iff (o : Overrides) (key value : String) :
    (o.withArgument? key value).isSome ↔ key = "tokenchars" ∨ key = "separators" := by
  rw [withArgument?]
  split
  · next h => simp [h]
  · next h => split <;> simp_all

/-- Arguments are about overrides exactly if they come in pairs and the first of each is one of two
keys. -/
theorem isSome_withArguments?_iff (o : Overrides) (arguments : List String) :
    (o.withArguments? arguments).isSome ↔
      arguments.length % 2 = 0 ∧ ∀ key ∈ keysOf arguments, key = "tokenchars" ∨ key = "separators" := by
  fun_induction withArguments? o arguments with
  | case1 o => simp [keysOf]
  | case2 o key => simp
  | case3 o key value rest o' h ih =>
    have known := (o.isSome_withArgument?_iff key value).mp (by rw [h]; rfl)
    rw [ih, keysOf, List.forall_mem_cons, List.length_cons, List.length_cons, Nat.add_assoc,
      Nat.add_mod_right]
    exact and_congr_right fun _ => (and_iff_right known).symm
  | case4 o key value rest h =>
    have unknown : ¬ (key = "tokenchars" ∨ key = "separators") := fun known => by
      rw [← o.isSome_withArgument?_iff key value, h] at known
      cases known
    simp [keysOf, unknown]

end Overrides

private theorem toOption_eq_some_iff {α : Type} {x : Except Error α} {a : α} :
    x.toOption = some a ↔ x = .ok a := by
  cases x <;> simp [Except.toOption]

/-- A tokenizer that understands the arguments about overrides, and no others but one, understands the
lists of arguments that are about overrides, if the other one does not occur. -/
private theorem toOption_foldArguments {α : Type} {tokenizer : String}
    {step : α → String → String → Except Error α} (make : Overrides → α)
    (h : ∀ o key value, key ≠ "remove_diacritics" →
      (step (make o) key value).toOption = (o.withArgument? key value).map make)
    (o : Overrides) {arguments : List String} (others : "remove_diacritics" ∉ keysOf arguments) :
    (foldArguments tokenizer step (make o) arguments).toOption =
      (o.withArguments? arguments).map make := by
  fun_induction Overrides.withArguments? o arguments with
  | case1 o => rfl
  | case2 o key => rfl
  | case3 o key value rest o' hk ih =>
    rw [keysOf, List.mem_cons, not_or] at others
    have hs := h o key value (Ne.symm others.1)
    rw [hk, Option.map_some, toOption_eq_some_iff] at hs
    rw [foldArguments, hs]
    exact ih others.2
  | case4 o key value rest hk =>
    rw [keysOf, List.mem_cons, not_or] at others
    have hs := h o key value (Ne.symm others.1)
    rw [hk] at hs
    rw [foldArguments]
    cases hstep : step (make o) key value with
    | error e => rfl
    | ok a => rw [hstep] at hs; cases hs

/-- Without arguments about diacritics the Unicode tokenizer takes the overrides from its arguments. -/
theorem UnicodeWords.toOption_ofArguments {arguments : List String}
    (others : "remove_diacritics" ∉ keysOf arguments) :
    (ofArguments arguments).toOption =
      (Overrides.withArguments? {} arguments).map (UnicodeWords.mk .removeSingle) := by
  refine toOption_foldArguments (UnicodeWords.mk .removeSingle) ?_ {} others
  intro o key value hk
  rw [withArgument, if_neg hk, Overrides.withArgument?]
  split
  · rfl
  · split <;> rfl

/-- The ASCII tokenizer takes the overrides from its arguments. -/
theorem AsciiWords.toOption_ofArguments {arguments : List String}
    (others : "remove_diacritics" ∉ keysOf arguments) :
    (ofArguments arguments).toOption =
      (Overrides.withArguments? {} arguments).map AsciiWords.mk := by
  refine toOption_foldArguments AsciiWords.mk ?_ {} others
  intro o key value _
  rw [withArgument, Overrides.withArgument?]
  split
  · rfl
  · split <;> rfl

/-! ### Rules that agree on a text -/

namespace RunRule

variable {σ : Type}

/-- The two rules have the same to say of a character. -/
structure AgreeOn (rule rule' : RunRule) (c : Char) : Prop where
  begins_eq : rule.begins c = rule'.begins c
  continues_eq : rule.continues c = rule'.continues c
  fold_eq : rule.fold c = rule'.fold c

private theorem close_congr {rule rule' : RunRule} {run : OpenRun}
    (h : ∀ c ∈ run.characters, rule.fold c = rule'.fold c) (sink : Sink σ) (stop : Nat) (s : σ) :
    rule.close sink run stop s = rule'.close sink run stop s := by
  have hf : rule.foldAll run.characters.reverse = rule'.foldAll run.characters.reverse :=
    List.flatMap_congr fun c hc => h c (List.mem_reverse.mp hc)
  rw [close, close, hf]

/-- Rules that agree on all characters read them alike, also where a run of such characters is open. -/
theorem scan_congr {rule rule' : RunRule} {cs : List Char} (agree : ∀ c ∈ cs, rule.AgreeOn rule' c)
    (sink : Sink σ) (offset : Nat) (run? : Option OpenRun)
    (opened : ∀ run ∈ run?, ∀ c ∈ run.characters, rule.fold c = rule'.fold c) (s : σ) :
    rule.scan sink offset run? cs s = rule'.scan sink offset run? cs s := by
  induction cs generalizing offset run? s with
  | nil =>
    cases run? with
    | none => rfl
    | some run => exact close_congr (opened run rfl) sink offset s
  | cons c cs ih =>
    obtain ⟨here, agree⟩ := List.forall_mem_cons.mp agree
    cases run? with
    | none =>
      rw [scan, scan, here.begins_eq]
      apply ih agree
      intro run hr d hd
      split at hr
      · cases hr
        obtain rfl := List.mem_singleton.mp hd
        exact here.fold_eq
      · cases hr
    | some run =>
      have opened := opened run rfl
      rw [scan, scan, here.continues_eq, close_congr opened]
      split
      · apply ih agree
        rintro _ ⟨⟩
        exact List.forall_mem_cons.mpr ⟨here.fold_eq, opened⟩
      · split
        · apply ih agree
          intro run none
          cases none
        · rfl

/-- Rules that agree on the characters of a text make the same tokens of it. -/
theorem tokenize_congr {rule rule' : RunRule} {text : String}
    (agree : ∀ c ∈ text.toList, rule.AgreeOn rule' c) (sink : Sink σ) (s : σ) :
    rule.tokenize sink text s = rule'.tokenize sink text s :=
  scan_congr agree sink 0 none nofun s

end RunRule

/-! ### ASCII characters -/

/-- What holds of the first 128 characters holds of every ASCII character. -/
theorem Text.forall_ascii {P : Char → Prop} (h : ∀ n < 128, P (Char.ofNat n)) (c : Char)
    (hc : c.toNat < 128) : P c := by
  have hp := h c.toNat hc
  rwa [Char.ofNat_toNat] at hp

/-- The tables of Unicode have nothing new to say of an ASCII character: it is no combining mark and not
for private use, it is a letter or a number if ASCII has it as one, and its small form is that of ASCII. -/
theorem Text.classes_of_ascii : ∀ c : Char, c.toNat < 128 →
    Text.isAlphanumeric c = c.isAlphanum ∧ isPrivateUse c = false ∧ Text.isCombiningMark c = false ∧
      Text.lowercase c = [c.toLower] ∧ c.toLower.toNat < 128 := by
  apply Text.forall_ascii
  decide +kernel

/-- The two tokenizers agree on ASCII characters if their overrides are the same. -/
theorem agreeOn_of_ascii (o : Overrides) (d : Diacritics) {c : Char} (h : c.toNat < 128) :
    (AsciiWords.mk o).runRule.AgreeOn (UnicodeWords.mk d o).runRule c := by
  obtain ⟨letter, priv, mark, small, smallAscii⟩ := Text.classes_of_ascii c h
  have begins : (AsciiWords.mk o).isTokenChar c = (UnicodeWords.mk d o).isTokenChar c := by
    rw [AsciiWords.isTokenChar, UnicodeWords.isTokenChar, letter, priv, Bool.or_false,
      decide_eq_false (Nat.not_le.mpr h), Bool.false_or]
  constructor
  · exact begins
  · change _ = (UnicodeWords.mk d o).continuesToken c
    rw [UnicodeWords.continuesToken, mark, Bool.false_and, Bool.or_false, ← begins]
    rfl
  · change [c.toLower] = (UnicodeWords.mk d o).fold c
    rw [UnicodeWords.fold, mark, if_neg (by simp), small, List.map_singleton, Diacritics.strip,
      if_pos (.inr smallAscii)]

namespace Tokenizer

variable {S L σ : Type}

/-- If no key of the arguments is about diacritics, then the ASCII tokenizer accepts them exactly if the
Unicode tokenizer does, and that is so if they come in pairs and every key is one of two. On a text of
ASCII characters the two tokenizers that result hand the same tokens to any sink and end alike, in every
mode and whatever becomes of diacritics. -/
theorem plain_tokenizers_agree {arguments : List String}
    (others : "remove_diacritics" ∉ keysOf arguments) :
    let acceptable := arguments.length % 2 = 0 ∧
      ∀ key ∈ keysOf arguments, key = "tokenchars" ∨ key = "separators"
    ((∃ a, AsciiWords.ofArguments arguments = .ok a) ↔ acceptable) ∧
      ((∃ u, UnicodeWords.ofArguments arguments = .ok u) ↔ acceptable) ∧
      ∀ a u, AsciiWords.ofArguments arguments = .ok a → UnicodeWords.ofArguments arguments = .ok u →
        ∀ (diacritics : Diacritics) (text : String), (∀ c ∈ text.toList, c.toNat < 128) →
        ∀ (mode : Mode) (access : Access S L σ) (sink : Sink σ) (s : σ),
          let narrow : Tokenizer S L := .ascii a
          let wide : Tokenizer S L := .unicode { u with diacritics }
          narrow.outcome access text mode sink s = wide.outcome access text mode sink s ∧
            narrow.handed access text mode sink s = wide.handed access text mode sink s := by
  have ha := AsciiWords.toOption_ofArguments others
  have hu := UnicodeWords.toOption_ofArguments others
  have hiff := Overrides.isSome_withArguments?_iff {} arguments
  refine ⟨?_, ?_, ?_⟩
  · rw [← hiff]
    simp only [← toOption_eq_some_iff, ha, ← Option.isSome_iff_exists, Option.isSome_map]
  · rw [← hiff]
    simp only [← toOption_eq_some_iff, hu, ← Option.isSome_iff_exists, Option.isSome_map]
  · intro a u hoka hoku diacritics text ascii mode access sink s
    rw [← toOption_eq_some_iff, ha, Option.map_eq_some_iff] at hoka
    rw [← toOption_eq_some_iff, hu, Option.map_eq_some_iff] at hoku
    obtain ⟨o, ho, rfl⟩ := hoka
    obtain ⟨o', ho', rfl⟩ := hoku
    obtain rfl : o = o' := Option.some.inj (ho.symm.trans ho')
    have agree := fun c hc => agreeOn_of_ascii o diacritics (ascii c hc)
    simp only [outcome, handed, tokenize, RunRule.tokenize_congr agree, and_self]

/-- Quotes, a repeated key and a character outside ASCII in the arguments make no difference to a text of
ASCII characters. -/
theorem plain_tokenizers_agree_on_compounds :
    let arguments := ["tokenchars", "'-é'", "separators", "x", "tokenchars", "\"_\""]
    "remove_diacritics" ∉ keysOf arguments ∧
      ∃ a u, AsciiWords.ofArguments arguments = .ok a ∧ UnicodeWords.ofArguments arguments = .ok u ∧
        (∀ c ∈ "E-Mail Boxes_".toList, c.toNat < 128) ∧
        let access : Access Store Lookup Nat := ({} : Holdings).access
        let sink : Sink Nat := fun _ n => (.ok (if n = 2 then .halt else .proceed), n + 1)
        let narrow : Tokenizer Store Lookup := .ascii a
        let wide : Tokenizer Store Lookup := .unicode { u with diacritics := .removeAll }
        narrow.handed access "E-Mail Boxes_" .forDocument sink 0 =
            [⟨"e-mail", 0, 6, false⟩, ⟨"bo", 7, 9, false⟩, ⟨"es_", 10, 13, false⟩] ∧
          narrow.handed access "E-Mail Boxes_" .forDocument sink 0 =
            wide.handed access "E-Mail Boxes_" .forDocument sink 0 := by
  have others : "remove_diacritics" ∉
      keysOf ["tokenchars", "'-é'", "separators", "x", "tokenchars", "\"_\""] := by decide
  have ascii : ∀ c ∈ "E-Mail Boxes_".toList, c.toNat < 128 := by simp
  refine ⟨others, ⟨⟨['-', 'é', '_'], ['x']⟩⟩, ⟨.removeSingle, ⟨['-', 'é', '_'], ['x']⟩⟩, by rfl, by rfl,
    ascii, ?_, ?_⟩
  · decide +kernel
  · obtain ⟨-, -, agree⟩ := plain_tokenizers_agree (S := Store) (L := Lookup) (σ := Nat) others
    exact (agree _ _ (by rfl) (by rfl) .removeAll _ ascii .forDocument _ _ 0).2

end Tokenizer

end TextAnalysis
