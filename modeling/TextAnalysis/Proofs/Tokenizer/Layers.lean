import TextAnalysis.Proofs.Tokenizer.Provenance
import TextAnalysis.Proofs.Tokenizer.Unsuppressed

/-!
# Tokenizers in layers

A tokenizer may stem the tokens of another one, which may itself do so, down to a plain tokenizer. Where no
stop words are suppressed, all tokens of the text that are long enough for each layer are delivered. They
stand in the text one after another, between characters.
-/

namespace TextAnalysis

open StopWords

/-- The tokens stand in the text, one after another: where each is there is a piece of the text. -/
structure Placed (text : String) (tokens : List Token) : Prop where
  source : ∀ token ∈ tokens, ∃ source, token.source? text = some source ∧ source ≠ ""
  ordered : tokens.Pairwise fun token next => token.stop ≤ next.start

namespace Placed

variable {text : String} {tokens : List Token}

/-- The place of a token begins before it ends, and ends within the text. -/
theorem bounds (placed : Placed text tokens) {token : Token} (mem : token ∈ tokens) :
    token.start < token.stop ∧ token.stop ≤ text.utf8ByteSize := by
  obtain ⟨source, here, nonempty⟩ := placed.source token mem
  exact Text.bounds_of_slice? here nonempty

/-- A text has no more tokens than bytes. -/
theorem length_le (placed : Placed text tokens) : tokens.length ≤ text.utf8ByteSize := by
  have fits : ∀ (tokens : List Token) (n : Nat),
      (∀ token ∈ tokens, n ≤ token.start ∧ token.start < token.stop ∧ token.stop ≤ text.utf8ByteSize) →
      tokens.Pairwise (fun token next => token.stop ≤ next.start) → n ≤ text.utf8ByteSize →
      n + tokens.length ≤ text.utf8ByteSize := by
    intro tokens
    induction tokens with
    | nil => exact fun n _ _ le => le
    | cons token tokens ih =>
      intro n within ordered _
      obtain ⟨⟨begins, proper, ends⟩, within⟩ := List.forall_mem_cons.mp within
      obtain ⟨follow, ordered⟩ := List.pairwise_cons.mp ordered
      have rest := ih (n + 1) (fun next mem => ?_) ordered (by omega)
      · rw [List.length_cons]
        omega
      · have := follow next mem
        have := within next mem
        omega
  have all := fits tokens 0
    (fun token mem => ⟨Nat.zero_le _, placed.bounds mem⟩) placed.ordered (Nat.zero_le _)
  omega

/-- From where one token begins to where the same or a later one ends there is a piece of the text. -/
theorem exists_slice? (placed : Placed text tokens) {i j : Nat} (le : i ≤ j) {first last : Token}
    (hi : tokens[i]? = some first) (hj : tokens[j]? = some last) :
    ∃ between, Text.slice? text first.start last.stop = some between := by
  have mem := List.mem_of_getElem? hi
  have mem' := List.mem_of_getElem? hj
  obtain ⟨source, here, -⟩ := placed.source first mem
  obtain ⟨source', there, -⟩ := placed.source last mem'
  refine Text.exists_slice?_between here there ?_
  have proper := (placed.bounds mem).1
  obtain rfl | lt := Nat.eq_or_lt_of_le le
  · obtain rfl : first = last := Option.some.inj (hi.symm.trans hj)
    exact Nat.le_of_lt proper
  · have follows : first.stop ≤ last.start := by
      obtain ⟨hi', rfl⟩ := List.getElem?_eq_some_iff.mp hi
      obtain ⟨hj', rfl⟩ := List.getElem?_eq_some_iff.mp hj
      exact List.pairwise_iff_getElem.mp placed.ordered i j hi' hj' lt
    have proper' := (placed.bounds mem').1
    omega

/-- Stemming leaves tokens where they stand. -/
theorem stems (placed : Placed text tokens) (stage : Stage) : Placed text (stage.stems tokens) where
  source token mem := by
    obtain ⟨raw, memRaw, -, rfl⟩ := Stage.mem_stems.mp mem
    exact placed.source raw memRaw
  ordered := stage.stems_pairwise placed.ordered

end Placed

/-- The tokens of a rule stand in the text one after another. -/
theorem RunRule.placed_tokens (rule : RunRule) (text : String) : Placed text (rule.tokens text) where
  source token mem := by
    obtain ⟨source, tokenOf⟩ := tokenOf_of_mem mem
    exact ⟨source, tokenOf.source?_eq, tokenOf.source_ne⟩
  ordered := rule.tokens_pairwise text

namespace Tokenizer

variable {S L : Type}

/-- The tokenizer is a plain one or stems, in one layer or several, the tokens of a plain one. -/
def OverPlain : Tokenizer S L → Prop
  | unicode _ => True
  | ascii _ => True
  | fixed _ => False
  | stemming inner _ _ => inner.OverPlain

/-- Whether stop words are suppressed in a call. -/
def suppresses : Tokenizer S L → Mode → String → Bool
  | stemming .., mode, text => suppressesStopWords mode text
  | _, _, _ => false

/-- The tokens of a text where no stop words are suppressed. -/
def allTokens : Tokenizer S L → String → List Token
  | unicode t, text => t.runRule.tokens text
  | ascii t, text => t.runRule.tokens text
  | fixed t, _ => t.tokens
  | stemming inner stage _, text => stage.stems (inner.allTokens text)

/-- Whatever the layers, the tokens of a text stand in it one after another. -/
theorem OverPlain.placed {t : Tokenizer S L} (overPlain : t.OverPlain) (text : String) :
    Placed text (t.allTokens text) := by
  induction t with
  | unicode t => exact t.runRule.placed_tokens text
  | ascii t => exact t.runRule.placed_tokens text
  | fixed t => exact overPlain.elim
  | stemming inner stage oracle ih => exact (ih overPlain).stems stage

/-- In documents, for auxiliary functions and in prefix queries no stop words are suppressed. -/
theorem suppresses_eq_false {mode : Mode} (h : mode.query = false ∨ mode.partialTerm = true)
    (t : Tokenizer S L) (text : String) : t.suppresses mode text = false := by
  cases t with
  | stemming inner stage oracle =>
    exact suppressesStopWords_eq_false_iff.mpr (h.imp_right .inl)
  | _ => rfl

/-- Where no stop words are suppressed, a tokenizer over a plain one delivers all tokens of the text. -/
theorem OverPlain.delivers {t : Tokenizer S L} (overPlain : t.OverPlain) {mode : Mode} {text : String}
    (stay : t.suppresses mode text = false) :
    t.Delivers text mode (t.allTokens text) (.ok .proceed) := by
  induction t with
  | unicode t => exact delivers_of_rule? rfl text mode
  | ascii t => exact delivers_of_rule? rfl text mode
  | fixed t => exact overPlain.elim
  | stemming inner stage oracle ih =>
    have stayInner : inner.suppresses mode text = false := by
      cases inner with
      | stemming => exact stay
      | _ => rfl
    intro σ access sink s
    exact Delivers.stemming (ih overPlain stayInner) stay stage oracle access sink s

end Tokenizer

end TextAnalysis
