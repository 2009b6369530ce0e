import TextAnalysis.Proofs.Tokenizer.Stemming

/-!
# Calls that a sink ends

A tokenizer hands a sink the tokens of a text up to the first one at which the sink has enough or fails, and
returns what the sink answered there. A call that a sink ends early has therefore shown it the first of the
tokens that are collected from the text, and nothing else.
-/

namespace TextAnalysis

open StopWords

namespace Tokenizer

variable {S L σ : Type}

/-- Of the tokens that a tokenizer delivers, the sink is handed all, or those up to the first one at which it
has enough or fails. -/
theorem Delivers.handed_cases {t : Tokenizer S L} {text : String} {mode : Mode} {tokens : List Token}
    {ending : Except Error Flow} (delivers : t.Delivers text mode tokens ending) (access : Access S L σ)
    (sink : Sink σ) (s : σ) :
    (sink.WantsAll tokens s ∧ t.handed access text mode sink s = tokens ∧
      t.outcome access text mode sink s = (ending, sink.after tokens s)) ∨
    ∃ front token back, tokens = front ++ token :: back ∧ sink.WantsAll front s ∧
      (sink token (sink.after front s)).1 ≠ .ok .proceed ∧
      t.handed access text mode sink s = front ++ [token] ∧
      t.outcome access text mode sink s = sink token (sink.after front s) := by
  obtain ⟨t', delivered⟩ := delivers access sink s
  obtain ⟨t'', noted⟩ := delivers (access.beside (List Token)) sink.noting ([], s)
  obtain ⟨wants, whole, notes⟩ | ⟨front, token, back, split, wants, ends, ended, notes⟩ :=
    deliver_cases sink ending tokens [] s
  · refine .inl ⟨wants, ?_, ?_⟩
    · rw [handed, noted, notes, List.append_nil]
      exact List.reverse_reverse tokens
    · rw [outcome, delivered, whole]
  · refine .inr ⟨front, token, back, split, wants, ends, ?_, ?_⟩
    · rw [handed, noted, notes, List.append_nil]
      exact List.reverse_reverse (front ++ [token])
    · rw [outcome, delivered, ended]

/-- What a sink is handed is the first of the tokens that a tokenizer delivers. -/
theorem Delivers.handed_isPrefix {t : Tokenizer S L} {text : String} {mode : Mode} {tokens : List Token}
    {ending : Except Error Flow} (delivers : t.Delivers text mode tokens ending) (access : Access S L σ)
    (sink : Sink σ) (s : σ) : t.handed access text mode sink s <+: tokens := by
  obtain ⟨-, handed, -⟩ | ⟨front, token, back, split, -, -, handed, -⟩ := delivers.handed_cases access sink s
  · exact handed ▸ List.prefix_rfl
  · refine ⟨back, ?_⟩
    rw [handed, split, List.append_assoc]
    rfl

/-- A plain tokenizer hands a sink exactly the tokens that are collected from the text, in order, up to and
including the first one at which the sink has enough or fails, and returns that answer of the sink. If there
is none, it hands the sink all of them and returns that the sink wanted more. So what a sink is handed is
always the first of those tokens. -/
theorem plain_call_ends {t : Tokenizer S L} {rule : RunRule} (h : t.rule? = some rule) (text : String)
    (mode : Mode) (access : Access S L σ) (sink : Sink σ) (s : σ) :
    ∃ tokens, (∀ mode' s', (t.collect access text mode' s').1 = .ok tokens) ∧
      t.handed access text mode sink s <+: tokens ∧
      ((sink.WantsAll tokens s ∧ t.handed access text mode sink s = tokens ∧
          t.outcome access text mode sink s = (.ok .proceed, sink.after tokens s)) ∨
        ∃ front token back, tokens = front ++ token :: back ∧ sink.WantsAll front s ∧
          ((sink token (sink.after front s)).1 = .ok .halt ∨
            ∃ e, (sink token (sink.after front s)).1 = .error e) ∧
          t.handed access text mode sink s = front ++ [token] ∧
          t.outcome access text mode sink s = sink token (sink.after front s)) := by
  have delivers (mode' : Mode) : t.Delivers text mode' (rule.tokens text) (.ok .proceed) :=
    delivers_of_rule? h text mode'
  refine ⟨rule.tokens text, fun mode' s' => Delivers.collect_eq (delivers mode') access s', ?_⟩
  obtain ⟨wants, handed, ended⟩ | ⟨front, token, back, split, wants, ends, handed, ended⟩ :=
    Delivers.handed_cases (delivers mode) access sink s
  · exact ⟨handed ▸ List.prefix_rfl, .inl ⟨wants, handed, ended⟩⟩
  · refine ⟨⟨back, ?_⟩, .inr ⟨front, token, back, split, wants, ?_, handed, ended⟩⟩
    · rw [handed, split, List.append_assoc]
      rfl
    · generalize (sink token (sink.after front s)).1 = answer at ends
      obtain e | flow := answer
      · exact .inr ⟨e, rfl⟩
      · cases flow with
        | proceed => exact absurd rfl ends
        | halt => exact .inl rfl

/-- A sink that fails at the second of three words is handed two, also if the run that goes before them leaves
no token. -/
theorem plain_call_ends_at_second_word :
    let t : Tokenizer Store Lookup := .unicode { overrides := { tokenChars := ['\u0301'] } }
    let access : Access Store Lookup Nat := ({} : Holdings).access
    let sink : Sink Nat := fun _ n => (if n = 1 then .error (.delegate "full") else .ok .proceed, n + 1)
    t.rule? = some (UnicodeWords.runRule { overrides := { tokenChars := ['\u0301'] } }) ∧
      t.handed access "\u0301 Äs, zu 3" .forQuery sink 0 = [⟨"as", 3, 6, false⟩, ⟨"zu", 8, 10, false⟩] ∧
      t.outcome access "\u0301 Äs, zu 3" .forQuery sink 0 = (.error (.delegate "full"), 2) ∧
      ∃ tokens, (t.collect access "\u0301 Äs, zu 3" .forQuery 0).1 = .ok tokens ∧
        t.handed access "\u0301 Äs, zu 3" .forQuery sink 0 <+: tokens := by
  intro t access sink
  refine ⟨rfl, by decide +kernel, by rfl, ?_⟩
  obtain ⟨tokens, collected, first, -⟩ :=
    plain_call_ends (t := t) rfl "\u0301 Äs, zu 3" .forQuery access sink 0
  exact ⟨tokens, collected .forQuery 0, first⟩

end Tokenizer

end TextAnalysis
