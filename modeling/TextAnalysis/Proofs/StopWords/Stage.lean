import TextAnalysis.Proofs.StopWords.Oracle
import TextAnalysis.Proofs.Token.Delivery
import TextAnalysis.StopWords.Stage

/-!
# What a stage does with the tokens of a call

The tokens that reach a stage in one call are a list, and so are those that it hands on. The stage is
compared with a walk along that list, for each answer that the oracle and the sink may give. Without
suppression the walk is a delivery of the stemmed tokens; with an oracle whose answers are known, it is
a delivery of those that are no stop words, or a failure at the first word that is asked for.
-/

namespace TextAnalysis

open StopWords

variable {S L σ : Type}

namespace Stage

/-- What is found out about a word: the answer of the oracle, or nothing if stop words are not
suppressed. -/
def verdict (access : Access S L σ) (suppress : Bool) (word : String) (oracle : Oracle S L) (s : σ) :
    Answer × Oracle S L × σ :=
  if suppress then oracle.ask access word s else (.no, oracle, s)

/-- Walk along the tokens of a call: drop a short token; if stop words are suppressed, ask the oracle,
drop a stop word and end the call at a failed lookup; hand any other token on, stemmed in its place, and
end the call when the sink has enough or fails. -/
def walk (access : Access S L σ) (stage : Stage) (suppress : Bool) (sink : Sink σ)
    (ending : Except Error Flow) :
    List Token → Oracle S L → σ → Except Error Flow × Oracle S L × σ
  | [], oracle, s => (ending, oracle, s)
  | token :: tokens, oracle, s =>
    if token.text.utf8ByteSize < stage.leastLength then
      walk access stage suppress sink ending tokens oracle s
    else
      match verdict access suppress token.text oracle s with
      | (.yes, oracle, s) => walk access stage suppress sink ending tokens oracle s
      | (.lookupFailed, oracle, s) => (.error (lookupError token.text), oracle, s)
      | (.no, oracle, s) =>
        match sink { token with text := stage.cascade.stem token.text } s with
        | (.ok .proceed, s) => walk access stage suppress sink ending tokens oracle s
        | (answer, s) => (answer, oracle, s)

private theorem refine_of_long {stage : Stage} {token : Token} (access : Access S L σ) (suppress : Bool)
    (oracle : Oracle S L) (s : σ) (hl : ¬ token.text.utf8ByteSize < stage.leastLength) :
    stage.refine access suppress token oracle s =
      match verdict access suppress token.text oracle s with
      | (.yes, oracle, s) => (.ok none, oracle, s)
      | (.lookupFailed, oracle, s) => (.error (lookupError token.text), oracle, s)
      | (.no, oracle, s) => (.ok (some (stage.stemmed token)), oracle, s) := by
  rw [refine, Token.size, if_neg hl, verdict]
  cases suppress with
  | false => rfl
  | true =>
    simp only [if_true]
    obtain ⟨answer, oracle, s⟩ := oracle.ask access token.text s
    cases answer <;> rfl

/-- Delivering tokens through a stage is walking along them. -/
theorem deliver_relay (access : Access S L σ) (stage : Stage) (suppress : Bool) (sink : Sink σ)
    (ending : Except Error Flow) (tokens : List Token) (oracle : Oracle S L) (s : σ) :
    deliver (stage.relay access suppress sink) ending tokens (oracle, s) =
      stage.walk access suppress sink ending tokens oracle s := by
  induction tokens generalizing oracle s with
  | nil => rfl
  | cons token tokens ih =>
    rw [deliver, walk, relay]
    by_cases hl : token.text.utf8ByteSize < stage.leastLength
    · rw [if_pos hl, refine, Token.size, if_pos hl]
      exact ih oracle s
    · rw [if_neg hl, refine_of_long access suppress oracle s hl]
      obtain ⟨answer, oracle, s⟩ := verdict access suppress token.text oracle s
      cases answer with
      | yes => exact ih oracle s
      | lookupFailed => rfl
      | no =>
        simp only [stemmed, Token.withText]
        obtain ⟨reply, s⟩ := sink { token with text := stage.cascade.stem token.text } s
        obtain e | flow := reply
        · rfl
        · cases flow with
          | proceed => exact ih oracle s
          | halt => rfl

/-! ### The tokens that may be handed on -/

/-- The tokens that are long enough, stemmed in their places. -/
def stems (stage : Stage) (tokens : List Token) : List Token :=
  (tokens.filter fun token => stage.leastLength ≤ token.size).map stage.stemmed

private theorem stems_cons_of_short {stage : Stage} {token : Token} (tokens : List Token)
    (h : token.text.utf8ByteSize < stage.leastLength) :
    stage.stems (token :: tokens) = stage.stems tokens := by
  have hn : ¬ stage.leastLength ≤ token.size := Nat.not_le.mpr h
  rw [stems, List.filter_cons, if_neg (by rwa [decide_eq_true_eq]), stems]

private theorem stems_cons_of_long {stage : Stage} {token : Token} (tokens : List Token)
    (h : ¬ token.text.utf8ByteSize < stage.leastLength) :
    stage.stems (token :: tokens) = stage.stemmed token :: stage.stems tokens := by
  have hp : stage.leastLength ≤ token.size := Nat.not_lt.mp h
  rw [stems, List.filter_cons, if_pos (by rwa [decide_eq_true_eq]), List.map_cons, stems]

/-- A token that is handed on comes from a token that is long enough. -/
theorem mem_stems {stage : Stage} {tokens : List Token} {token : Token} :
    token ∈ stage.stems tokens ↔
      ∃ raw ∈ tokens, stage.leastLength ≤ raw.size ∧ stage.stemmed raw = token := by
  simp only [stems, List.mem_map, List.mem_filter, decide_eq_true_eq, and_assoc]

private theorem verdict_beside {τ : Type} (access : Access S L σ) (suppress : Bool) (word : String)
    (oracle : Oracle S L) (t : τ) (s : σ) :
    verdict (access.beside τ) suppress word oracle (t, s) =
      ((verdict access suppress word oracle s).1, (verdict access suppress word oracle s).2.1, t,
        (verdict access suppress word oracle s).2.2) := by
  cases suppress with
  | false => rfl
  | true => exact oracle.ask_beside access word t s

/-- Noting what the sink is handed changes nothing else, and the notes hold some of the stemmed tokens,
in order, whatever the stores do. -/
theorem walk_noting (access : Access S L σ) (stage : Stage) (suppress : Bool) (sink : Sink σ)
    (ending : Except Error Flow) (tokens : List Token) (oracle : Oracle S L) (noted : List Token)
    (s : σ) :
    ∃ handed : List Token, handed.Sublist (stage.stems tokens) ∧
      stage.walk (access.beside (List Token)) suppress sink.noting ending tokens oracle (noted, s) =
        ((stage.walk access suppress sink ending tokens oracle s).1,
          (stage.walk access suppress sink ending tokens oracle s).2.1, handed.reverse ++ noted,
          (stage.walk access suppress sink ending tokens oracle s).2.2) := by
  induction tokens generalizing oracle noted s with
  | nil => exact ⟨[], List.Sublist.refl [], rfl⟩
  | cons token tokens ih =>
    rw [walk, walk]
    by_cases hl : token.text.utf8ByteSize < stage.leastLength
    · rw [if_pos hl, if_pos hl, stems_cons_of_short tokens hl]
      exact ih oracle noted s
    · rw [if_neg hl, if_neg hl, stems_cons_of_long tokens hl, verdict_beside]
      obtain ⟨answer, oracle, s⟩ := verdict access suppress token.text oracle s
      cases answer with
      | yes =>
        obtain ⟨handed, hs, hw⟩ := ih oracle noted s
        exact ⟨handed, hs.cons _, hw⟩
      | lookupFailed => exact ⟨[], List.nil_sublist _, rfl⟩
      | no =>
        simp only [Sink.noting]
        obtain ⟨reply, s⟩ := sink { token with text := stage.cascade.stem token.text } s
        have stop : ∃ handed : List Token,
            handed.Sublist (stage.stemmed token :: stage.stems tokens) ∧
              stage.stemmed token :: noted = handed.reverse ++ noted :=
          ⟨[stage.stemmed token], List.Sublist.cons_cons _ (List.nil_sublist _), rfl⟩
        obtain e | flow := reply
        · obtain ⟨handed, hs, hn⟩ := stop
          exact ⟨handed, hs, by rw [← hn]; rfl⟩
        · cases flow with
          | proceed =>
            obtain ⟨handed, hs, hw⟩ := ih oracle (stage.stemmed token :: noted) s
            refine ⟨stage.stemmed token :: handed, hs.cons_cons _, ?_⟩
            rw [List.reverse_cons, List.append_assoc]
            exact hw
          | halt =>
            obtain ⟨handed, hs, hn⟩ := stop
            exact ⟨handed, hs, by rw [← hn]; rfl⟩

/-! ### Oracles whose answers are known -/

/-- Whatever asking keeps true of an oracle is true after a call in which it was true before. -/
theorem walk_oracle {access : Access S L σ} {P : Oracle S L → Prop}
    (keep : ∀ oracle word s, P oracle → P (oracle.ask access word s).2.1) (stage : Stage)
    (suppress : Bool) (sink : Sink σ) (ending : Except Error Flow) (tokens : List Token)
    {oracle : Oracle S L} (s : σ) (h : P oracle) :
    P (stage.walk access suppress sink ending tokens oracle s).2.1 := by
  induction tokens generalizing oracle s with
  | nil => exact h
  | cons token tokens ih =>
    rw [walk]
    by_cases hl : token.text.utf8ByteSize < stage.leastLength
    · rw [if_pos hl]
      exact ih s h
    · have hv : P (verdict access suppress token.text oracle s).2.1 := by
        cases suppress with
        | false => exact h
        | true => exact keep oracle token.text s h
      rw [if_neg hl]
      generalize verdict access suppress token.text oracle s = r at hv
      obtain ⟨answer, oracle, s⟩ := r
      cases answer with
      | yes => exact ih s hv
      | lookupFailed => exact hv
      | no =>
        simp only
        split
        · exact ih _ hv
        · exact hv

/-- In the states `P` the oracle finds out about every word, leaves all else as it is and stays in one
of these states. A word is a stop word if `stops` holds of it. -/
def Decides (access : Access S L σ) (suppress : Bool) (P : Oracle S L → Prop)
    (stops : String → Bool) : Prop :=
  ∀ oracle word s, P oracle → ∃ oracle', P oracle' ∧
    verdict access suppress word oracle s = (if stops word then .yes else .no, oracle', s)

/-- Where stop words are not suppressed there are none, whatever the oracle. -/
theorem decides_unsuppressed (access : Access S L σ) (oracle : Oracle S L) :
    Decides access false (· = oracle) fun _ => false :=
  fun _ _ _ h => ⟨oracle, rfl, by rw [← h]; rfl⟩

section Kept

variable {access : Access S L σ} {stage : Stage} {suppress : Bool} {sink : Sink σ}
  {ending : Except Error Flow} {token : Token} {tokens : List Token} {oracle oracle' : Oracle S L} {s : σ}

private theorem walk_cons_of_no (hl : ¬ token.text.utf8ByteSize < stage.leastLength)
    (hv : verdict access suppress token.text oracle s = (.no, oracle', s)) :
    stage.walk access suppress sink ending (token :: tokens) oracle s =
      match sink (stage.stemmed token) s with
      | (.ok .proceed, s) => stage.walk access suppress sink ending tokens oracle' s
      | (answer, s) => (answer, oracle', s) := by
  rw [walk, if_neg hl, hv]
  rfl

private theorem walk_cons_of_proceed (hl : ¬ token.text.utf8ByteSize < stage.leastLength)
    (hv : verdict access suppress token.text oracle s = (.no, oracle', s))
    (hp : (sink (stage.stemmed token) s).1 = .ok .proceed) :
    stage.walk access suppress sink ending (token :: tokens) oracle s =
      stage.walk access suppress sink ending tokens oracle' (sink (stage.stemmed token) s).2 := by
  have hs : sink (stage.stemmed token) s = (.ok .proceed, (sink (stage.stemmed token) s).2) :=
    Prod.ext hp rfl
  rw [walk_cons_of_no hl hv, hs]

private theorem walk_cons_of_ne_proceed (hl : ¬ token.text.utf8ByteSize < stage.leastLength)
    (hv : verdict access suppress token.text oracle s = (.no, oracle', s))
    (hp : (sink (stage.stemmed token) s).1 ≠ .ok .proceed) :
    stage.walk access suppress sink ending (token :: tokens) oracle s =
      ((sink (stage.stemmed token) s).1, oracle', (sink (stage.stemmed token) s).2) := by
  rw [walk_cons_of_no hl hv]
  split
  · next hs => exact absurd (congrArg Prod.fst hs) hp
  · next hs => rw [hs]

end Kept

/-- Where the oracle decides, the tokens that are no stop words are delivered, stemmed. -/
theorem walk_of_decides {access : Access S L σ} {suppress : Bool} {P : Oracle S L → Prop}
    {stops : String → Bool} (decides : Decides access suppress P stops) (stage : Stage) (sink : Sink σ)
    (ending : Except Error Flow) (tokens : List Token) {oracle : Oracle S L} (s : σ) (h : P oracle) :
    ∃ oracle', P oracle' ∧
      stage.walk access suppress sink ending tokens oracle s =
        ((deliver sink ending (stage.stems (tokens.filter fun token => !stops token.text)) s).1,
          oracle',
          (deliver sink ending (stage.stems (tokens.filter fun token => !stops token.text)) s).2) := by
  induction tokens generalizing oracle s with
  | nil => exact ⟨oracle, h, rfl⟩
  | cons token tokens ih =>
    rw [walk]
    by_cases hl : token.text.utf8ByteSize < stage.leastLength
    · have hs : stage.stems ((token :: tokens).filter fun token => !stops token.text) =
          stage.stems (tokens.filter fun token => !stops token.text) := by
        rw [List.filter_cons]
        split
        · exact stems_cons_of_short _ hl
        · rfl
      rw [if_pos hl, hs]
      exact ih s h
    · obtain ⟨oracle', h', hv⟩ := decides oracle token.text s h
      rw [List.filter_cons]
      cases hw : stops token.text with
      | true =>
        rw [hw] at hv
        rw [if_neg hl, hv]
        exact ih s h'
      | false =>
        rw [hw] at hv
        rw [Bool.not_false, if_pos rfl, stems_cons_of_long _ hl, ← walk]
        by_cases hp : (sink (stage.stemmed token) s).1 = .ok .proceed
        · rw [deliver_cons_of_proceed hp, walk_cons_of_proceed hl hv hp]
          exact ih _ h'
        · rw [deliver_cons_of_ne_proceed hp, walk_cons_of_ne_proceed hl hv hp]
          exact ⟨oracle', h', rfl⟩

/-- Where stop words are not suppressed, the stemmed tokens are delivered and the oracle is left alone. -/
theorem walk_unsuppressed (access : Access S L σ) (stage : Stage) (sink : Sink σ)
    (ending : Except Error Flow) (tokens : List Token) (oracle : Oracle S L) (s : σ) :
    stage.walk access false sink ending tokens oracle s =
      ((deliver sink ending (stage.stems tokens) s).1, oracle,
        (deliver sink ending (stage.stems tokens) s).2) := by
  have all : tokens.filter (fun _ => !false) = tokens := List.filter_eq_self.mpr fun _ _ => rfl
  obtain ⟨oracle', rfl, walked⟩ :=
    walk_of_decides (decides_unsuppressed access oracle) stage sink ending tokens s rfl
  rw [all] at walked
  exact walked

/-- If no token is long enough, the oracle is not asked and nothing is delivered. -/
theorem walk_of_short (access : Access S L σ) {stage : Stage} (suppress : Bool) (sink : Sink σ)
    (ending : Except Error Flow) {tokens : List Token}
    (short : ∀ token ∈ tokens, token.size < stage.leastLength) (oracle : Oracle S L) (s : σ) :
    stage.walk access suppress sink ending tokens oracle s = (ending, oracle, s) := by
  induction tokens with
  | nil => rfl
  | cons token tokens ih =>
    obtain ⟨here, rest⟩ := List.forall_mem_cons.mp short
    have hl : token.text.utf8ByteSize < stage.leastLength := here
    rw [walk, if_pos hl]
    exact ih rest

/-- If a token is long enough, the oracle may as well connect before the first one. -/
theorem walk_establish (access : Access S L σ) {stage : Stage} (sink : Sink σ)
    (ending : Except Error Flow) {tokens : List Token}
    (long : ∃ token ∈ tokens, stage.leastLength ≤ token.size) (oracle : Oracle S L) (s : σ) :
    stage.walk access true sink ending tokens (oracle.establish access s).1
        (oracle.establish access s).2 =
      stage.walk access true sink ending tokens oracle s := by
  induction tokens with
  | nil =>
    obtain ⟨token, ht, -⟩ := long
    cases ht
  | cons token tokens ih =>
    rw [walk, walk]
    -- Short tokens leave oracle and state alone, so that the first long one finds both as they were.
    by_cases hl : token.text.utf8ByteSize < stage.leastLength
    · have rest : ∃ token ∈ tokens, stage.leastLength ≤ token.size := by
        obtain ⟨other, ho, hlong⟩ := long
        obtain rfl | ho := List.mem_cons.mp ho
        · exact absurd hl (Nat.not_lt.mpr hlong)
        · exact ⟨other, ho, hlong⟩
      rw [if_pos hl, if_pos hl]
      exact ih rest
    · rw [if_neg hl, if_neg hl, verdict, verdict, if_pos rfl, if_pos rfl, Oracle.ask_establish]

/-- How a call ends in which no word can be looked up: it fails at the first token that is long enough. -/
def unanswered (stage : Stage) (ending : Except Error Flow) (tokens : List Token) : Except Error Flow :=
  match tokens.find? fun token => stage.leastLength ≤ token.size with
  | some token => .error (lookupError token.text)
  | none => ending

private theorem unanswered_cons_of_short {stage : Stage} {token : Token} (ending : Except Error Flow)
    (tokens : List Token) (h : token.text.utf8ByteSize < stage.leastLength) :
    stage.unanswered ending (token :: tokens) = stage.unanswered ending tokens := by
  have hn : ¬ stage.leastLength ≤ token.size := Nat.not_le.mpr h
  rw [unanswered, List.find?_cons_of_neg (by rwa [decide_eq_true_eq]), unanswered]

private theorem unanswered_cons_of_long {stage : Stage} {token : Token} (ending : Except Error Flow)
    (tokens : List Token) (h : ¬ token.text.utf8ByteSize < stage.leastLength) :
    stage.unanswered ending (token :: tokens) = .error (lookupError token.text) := by
  have hp : stage.leastLength ≤ token.size := Nat.not_lt.mp h
  rw [unanswered, List.find?_cons_of_pos (by rwa [decide_eq_true_eq])]

/-- If a token is long enough, such a call fails at the first that is. -/
theorem exists_unanswered (stage : Stage) (ending : Except Error Flow) {tokens : List Token}
    (long : ∃ token ∈ tokens, stage.leastLength ≤ token.size) :
    ∃ token, (tokens.find? fun token => stage.leastLength ≤ token.size) = some token ∧
      stage.unanswered ending tokens = .error (lookupError token.text) := by
  have found : (tokens.find? fun token => stage.leastLength ≤ token.size).isSome = true := by
    obtain ⟨token, ht, hl⟩ := long
    exact List.find?_isSome.mpr ⟨token, ht, decide_eq_true hl⟩
  obtain ⟨token, ht⟩ := Option.isSome_iff_exists.mp found
  exact ⟨token, ht, by rw [unanswered, ht]⟩

/-- If no token is long enough, such a call ends as any other. -/
theorem unanswered_of_short (stage : Stage) (ending : Except Error Flow) {tokens : List Token}
    (short : ∀ token ∈ tokens, token.size < stage.leastLength) :
    stage.unanswered ending tokens = ending := by
  have none : (tokens.find? fun token => stage.leastLength ≤ token.size) = none := by
    apply List.find?_eq_none.mpr
    intro token ht
    rw [decide_eq_true_eq, Nat.not_le]
    exact short token ht
  rw [unanswered, none]

/-- Where the oracle cannot look anything up, a call with suppressed stop words fails at the first token
that is long enough, before the sink is handed anything. -/
theorem walk_of_failing {access : Access S L σ} {oracle : Oracle S L}
    (failing : ∀ word s, ∃ oracle', oracle.ask access word s = (.lookupFailed, oracle', s))
    (stage : Stage) (sink : Sink σ) (ending : Except Error Flow) (tokens : List Token) (s : σ) :
    ∃ oracle', stage.walk access true sink ending tokens oracle s =
      (stage.unanswered ending tokens, oracle', s) := by
  induction tokens with
  | nil => exact ⟨oracle, rfl⟩
  | cons token tokens ih =>
    rw [walk]
    by_cases hl : token.text.utf8ByteSize < stage.leastLength
    · rw [if_pos hl, unanswered_cons_of_short ending tokens hl]
      exact ih
    · obtain ⟨oracle', hv⟩ := failing token.text s
      rw [if_neg hl, unanswered_cons_of_long ending tokens hl, verdict, if_pos rfl, hv]
      exact ⟨oracle', rfl⟩

/-- An oracle that has failed in this session lets such a call fail and stays as it is. -/
theorem walk_of_failed (access : Access S L σ) {oracle : Oracle S L} (failed : oracle.handle = .failed)
    (stage : Stage) (sink : Sink σ) (ending : Except Error Flow) (tokens : List Token) (s : σ) :
    stage.walk access true sink ending tokens oracle s =
      (stage.unanswered ending tokens, oracle, s) := by
  have keep : ∀ (o : Oracle S L) (word : String) (s : σ), o = oracle →
      (o.ask access word s).2.1 = oracle := by
    rintro o word s rfl
    rw [Oracle.ask_of_failed access failed]
  obtain ⟨oracle', walked⟩ := walk_of_failing
    (fun word s => ⟨oracle, Oracle.ask_of_failed access failed word s⟩) stage sink ending tokens s
  have same := walk_oracle keep stage true sink ending tokens s rfl
  rw [walked] at same
  rw [walked, show oracle' = oracle from same]

end Stage

end TextAnalysis
