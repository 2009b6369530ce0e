import TextAnalysis.Proofs.StopWords.Oracle
import TextAnalysis.StopWords.Store

/-!
# Sessions of an oracle

Stores may reply to each question as they like, and may change whenever nothing is asked of them. An oracle
deals with them in an orderly way all the same. In one session it makes at most one attempt to connect, and
none while it is connected. Once a lookup has failed it asks nothing of the stores, and answers nothing else,
until the next session. Every other answer is the reply that was given when the word was looked up.
-/

namespace TextAnalysis.StopWords

variable {S L σ : Type}

/-! ### What is asked of stores and of oracles -/

/-- Something that is asked of stop-word stores, with the reply. -/
inductive Exchange (S L : Type) where
  | connect (store : S) (reply : Except Error L)
  | contains (lookup : L) (word : String) (reply : Except Error Bool)

namespace Exchange

/-- Whether it is an attempt to connect. -/
def isAttempt : Exchange S L → Bool
  | connect .. => true
  | contains .. => false

/-- Whether the reply is an error. -/
def fails : Exchange S L → Bool
  | connect _ (.error _) => true
  | contains _ _ (.error _) => true
  | _ => false

end Exchange

/-- The ways to consult stores, with each exchange noted, the last one first. -/
def Access.notingExchanges (access : Access S L σ) : Access S L (List (Exchange S L) × σ) where
  connect store s :=
    ((access.connect store s.2).1, .connect store (access.connect store s.2).1 :: s.1,
      (access.connect store s.2).2)
  contains lookup word s :=
    ((access.contains lookup word s.2).1,
      .contains lookup word (access.contains lookup word s.2).1 :: s.1,
      (access.contains lookup word s.2).2)

/-- The answer by what was found in a lookup. -/
def Answer.ofFound (found : Bool) : Answer := if found then .yes else .no

/-- A question to an oracle: the word, whether the oracle was connected, what the oracle and the stores
exchanged, in order, and the answer. -/
structure Question (S L : Type) where
  word : String
  connected : Bool
  exchanges : List (Exchange S L)
  answer : Answer

/-- The attempts to connect that a question led to. -/
def Question.attempts (q : Question S L) : List (Exchange S L) := q.exchanges.filter Exchange.isAttempt

/-- What may happen next: a session begins, a word is asked for, or the stores change. -/
inductive Turn (σ : Type) where
  | beginSession
  | ask (word : String)
  | change (f : σ → σ)

namespace Oracle

/-- The question for a word. -/
def question (access : Access S L σ) (o : Oracle S L) (word : String) (s : σ) : Question S L where
  word
  connected := o.isConnected
  exchanges := (o.ask access.notingExchanges word ([], s)).2.2.1.reverse
  answer := (o.ask access word s).1

/-- The questions of each session. The first session is that in which the oracle is found. -/
def sessions (access : Access S L σ) :
    List (Turn σ) → Oracle S L → σ → List (List (Question S L))
  | [], _, _ => [[]]
  | .beginSession :: turns, o, s => [] :: sessions access turns o.beginSession s
  | .ask word :: turns, o, s =>
    (sessions access turns (o.ask access word s).2.1 (o.ask access word s).2.2).modifyHead
      (o.question access word s :: ·)
  | .change f :: turns, o, s => sessions access turns o (f s)

end Oracle

/-! ### What becomes of a question -/

/-- All that may become of a question, between the handle with which the oracle is asked and the one that it
is left with. -/
inductive Answers : Handle L → Question S L → Handle L → Prop
  | failed (word : String) : Answers .failed ⟨word, false, [], .lookupFailed⟩ .failed
  | unreachable (word : String) (store : S) (e : Error) :
      Answers .pending ⟨word, false, [.connect store (.error e)], .lookupFailed⟩ .failed
  | connects (word : String) (store : S) (lookup : L) (found : Bool) :
      Answers .pending
        ⟨word, false, [.connect store (.ok lookup), .contains lookup word (.ok found)], .ofFound found⟩
        (.connected lookup)
  | connectsInVain (word : String) (store : S) (lookup : L) (e : Error) :
      Answers .pending
        ⟨word, false, [.connect store (.ok lookup), .contains lookup word (.error e)], .lookupFailed⟩ .failed
  | looksUp (word : String) (lookup : L) (found : Bool) :
      Answers (.connected lookup) ⟨word, true, [.contains lookup word (.ok found)], .ofFound found⟩
        (.connected lookup)
  | looksUpInVain (word : String) (lookup : L) (e : Error) :
      Answers (.connected lookup) ⟨word, true, [.contains lookup word (.error e)], .lookupFailed⟩ .failed

/-- A question that an oracle is asked goes in one of these ways, whatever the stores reply. -/
theorem Oracle.answers_question (access : Access S L σ) (o : Oracle S L) (word : String) (s : σ) :
    Answers o.handle (o.question access word s) (o.ask access word s).2.1.handle := by
  obtain ⟨store, handle⟩ := o
  cases handle with
  | pending =>
    simp only [question, isConnected, ask, establish, Access.notingExchanges]
    obtain ⟨e | lookup, s⟩ := access.connect store s
    · exact .unreachable word store e
    · simp only [consult]
      obtain ⟨e | found, s⟩ := access.contains lookup word s
      · exact .connectsInVain word store lookup e
      · cases found with
        | false => exact .connects word store lookup false
        | true => exact .connects word store lookup true
  | connected lookup =>
    simp only [question, isConnected, ask, establish, consult, Access.notingExchanges]
    obtain ⟨e | found, s⟩ := access.contains lookup word s
    · exact .looksUpInVain word lookup e
    · cases found with
      | false => exact .looksUp word lookup false
      | true => exact .looksUp word lookup true
  | failed => exact .failed word

namespace Answers

variable {handle handle' : Handle L} {q : Question S L}

/-- After a question an oracle does not connect again. -/
theorem ne_pending (h : Answers handle q handle') : handle' ≠ .pending := by
  cases h <;> exact nofun

/-- Unless no attempt has been made in the session, none is made. -/
theorem attempts_eq_nil (h : Answers handle q handle') (tried : handle ≠ .pending) : q.attempts = [] := by
  cases h with
  | failed => rfl
  | unreachable => exact absurd rfl tried
  | connects => exact absurd rfl tried
  | connectsInVain => exact absurd rfl tried
  | looksUp => rfl
  | looksUpInVain => rfl

/-- A question leads to one attempt at most. -/
theorem attempts_le_one (h : Answers handle q handle') : q.attempts.length ≤ 1 := by
  cases h with
  | failed => exact Nat.zero_le 1
  | unreachable => exact Nat.le_refl 1
  | connects => exact Nat.le_refl 1
  | connectsInVain => exact Nat.le_refl 1
  | looksUp => exact Nat.zero_le 1
  | looksUpInVain => exact Nat.zero_le 1

/-- An oracle that is connected makes no attempt to connect. -/
theorem attempts_of_connected (h : Answers handle q handle') (connected : q.connected = true) :
    q.attempts = [] := by
  refine h.attempts_eq_nil ?_
  rintro rfl
  cases h <;> cases connected

/-- An oracle has failed after a question just if that is the answer. -/
theorem eq_failed_iff (h : Answers handle q handle') : handle' = .failed ↔ q.answer = .lookupFailed := by
  cases h with
  | connects _ _ _ found => cases found <;> simp [Answer.ofFound]
  | looksUp _ _ found => cases found <;> simp [Answer.ofFound]
  | _ => simp

/-- An oracle that has failed asks nothing of the stores. -/
theorem exchanges_of_failed (h : Answers (.failed : Handle L) q handle') : q.exchanges = [] := by
  cases h
  rfl

/-- The answer is a failure just if the oracle has failed before or the stores reply with an error. -/
theorem answer_eq_lookupFailed_iff (h : Answers handle q handle') :
    q.answer = .lookupFailed ↔ handle = .failed ∨ ∃ x ∈ q.exchanges, x.fails = true := by
  cases h with
  | connects _ _ _ found => cases found <;> simp [Answer.ofFound, Exchange.fails]
  | looksUp _ _ found => cases found <;> simp [Answer.ofFound, Exchange.fails]
  | _ => simp [Exchange.fails]

/-- Any other answer is the reply to the last exchange, in which the word was looked up. -/
theorem answer_eq_ofFound_iff (h : Answers handle q handle') (found : Bool) :
    q.answer = .ofFound found ↔
      ∃ lookup, q.exchanges.getLast? = some (.contains lookup q.word (.ok found)) := by
  cases h with
  | connects _ _ _ found' => cases found <;> cases found' <;> simp [Answer.ofFound]
  | looksUp _ _ found' => cases found <;> cases found' <;> simp [Answer.ofFound]
  | _ => cases found <;> simp [Answer.ofFound]

end Answers

/-! ### Sessions -/

/-- The questions follow one another in one session, the first one put to an oracle with the given handle. -/
inductive Session : Handle L → List (Question S L) → Prop
  | nil (handle : Handle L) : Session handle []
  | cons {handle handle' : Handle L} {q : Question S L} {session : List (Question S L)}
      (first : Answers handle q handle') (rest : Session handle' session) : Session handle (q :: session)

/-- Each session but the first is put to an oracle that has not failed. -/
theorem Oracle.sessions_eq_cons (access : Access S L σ) (turns : List (Turn σ)) (o : Oracle S L) (s : σ) :
    ∃ first others, o.sessions access turns s = first :: others ∧ Session o.handle first ∧
      ∀ session ∈ others, ∃ handle : Handle L, handle ≠ .failed ∧ Session handle session := by
  induction turns generalizing o s with
  | nil => exact ⟨[], [], rfl, .nil _, nofun⟩
  | cons turn turns ih =>
    cases turn with
    | beginSession =>
      obtain ⟨first, others, eq, opening, following⟩ := ih o.beginSession s
      refine ⟨[], first :: others, by rw [sessions, eq], .nil _, List.forall_mem_cons.mpr ⟨?_, following⟩⟩
      exact ⟨o.beginSession.handle, o.handle_beginSession_ne, opening⟩
    | ask word =>
      obtain ⟨first, others, eq, opening, following⟩ :=
        ih (o.ask access word s).2.1 (o.ask access word s).2.2
      refine ⟨o.question access word s :: first, others, ?_, ?_, following⟩
      · rw [sessions, eq]
        rfl
      · exact .cons (o.answers_question access word s) opening
    | change f => exact ih o (f s)

namespace Session

variable {handle : Handle L} {q : Question S L} {session before after : List (Question S L)}

/-- Once an attempt has been made, no other follows in the session. -/
theorem attempts_eq_nil (h : Session handle session) (tried : handle ≠ .pending) :
    session.flatMap Question.attempts = [] := by
  induction h with
  | nil => rfl
  | cons first _ ih =>
    rw [List.flatMap_cons, first.attempts_eq_nil tried, ih first.ne_pending]
    rfl

/-- In a session there is one attempt at most. -/
theorem attempts_le_one (h : Session handle session) :
    (session.flatMap Question.attempts).length ≤ 1 := by
  cases h with
  | nil => exact Nat.zero_le 1
  | cons first rest =>
    rw [List.flatMap_cons, rest.attempts_eq_nil first.ne_pending, List.append_nil]
    exact first.attempts_le_one

/-- Where some questions have been asked the session goes on, and the oracle has failed just if it had or a
lookup has failed since. -/
theorem exists_answers (h : Session handle (before ++ q :: after)) :
    ∃ reached next : Handle L, Answers reached q next ∧
      (reached = .failed ↔ handle = .failed ∨ ∃ e ∈ before, e.answer = .lookupFailed) := by
  induction before generalizing handle with
  | nil =>
    cases h with
    | cons first rest => exact ⟨handle, _, first, by simp⟩
  | cons e before ih =>
    cases h with
    | cons first rest =>
      obtain ⟨reached, next, here, failed⟩ := ih rest
      refine ⟨reached, next, here, ?_⟩
      have stays : handle = .failed → e.answer = .lookupFailed :=
        fun hf => first.answer_eq_lookupFailed_iff.mpr (.inl hf)
      simp only [failed, first.eq_failed_iff, List.mem_cons, exists_eq_or_imp]
      exact ⟨.inr, fun h => h.elim (fun hf => .inl (stays hf)) id⟩

/-- Each question of a session goes in one of the ways in which questions go. -/
theorem exists_answers_of_mem (h : Session handle session) (mem : q ∈ session) :
    ∃ reached next : Handle L, Answers reached q next := by
  obtain ⟨before, after, rfl⟩ := List.append_of_mem mem
  obtain ⟨reached, next, here, -⟩ := h.exists_answers
  exact ⟨reached, next, here⟩

end Session

/-- However often the stores fail, and in whatever order an oracle is asked and begins sessions, in each
session there is at most one attempt to connect, and none while the oracle is connected. A question fails
just if one before it in the session has failed, and then nothing is asked of the stores, or if the stores now
reply with an error. An answer that says whether a word is a stop word is the reply to the last exchange, in
which that word was looked up. -/
theorem Oracle.attempts_once_in_session (access : Access S L σ) (store : S) (turns : List (Turn σ)) (s : σ)
    {session : List (Question S L)}
    (mem : session ∈ ({ store } : Oracle S L).sessions access turns s) :
    (session.flatMap Question.attempts).length ≤ 1 ∧
      (∀ q ∈ session, q.connected = true → q.attempts = []) ∧
      (∀ before q after, session = before ++ q :: after →
        (q.answer = .lookupFailed ↔
          (∃ e ∈ before, e.answer = .lookupFailed) ∨ ∃ x ∈ q.exchanges, x.fails = true) ∧
        ((∃ e ∈ before, e.answer = .lookupFailed) → q.exchanges = [])) ∧
      ∀ q ∈ session, ∀ found, q.answer = .ofFound found ↔
        ∃ lookup, q.exchanges.getLast? = some (.contains lookup q.word (.ok found)) := by
  obtain ⟨first, others, eq, opening, following⟩ :=
    ({ store } : Oracle S L).sessions_eq_cons access turns s
  obtain ⟨handle, fresh, asked⟩ : ∃ handle : Handle L, handle ≠ .failed ∧ Session handle session := by
    rw [eq] at mem
    obtain rfl | mem := List.mem_cons.mp mem
    · exact ⟨.pending, nofun, opening⟩
    · exact following session mem
  refine ⟨asked.attempts_le_one, ?_, ?_, ?_⟩
  · intro q mem connected
    obtain ⟨reached, next, here⟩ := asked.exists_answers_of_mem mem
    exact here.attempts_of_connected connected
  · rintro before q after rfl
    obtain ⟨reached, next, here, failed⟩ := asked.exists_answers
    rw [or_iff_right fresh] at failed
    refine ⟨by rw [here.answer_eq_lookupFailed_iff, failed], fun before_failed => ?_⟩
    obtain rfl := failed.mpr before_failed
    exact here.exchanges_of_failed
  · intro q mem found
    obtain ⟨reached, next, here⟩ := asked.exists_answers_of_mem mem
    exact here.answer_eq_ofFound_iff found

/-- A table that is made too late for the first session is found in the second one and lost again there. -/
theorem Oracle.attempts_once_while_table_comes_and_goes :
    let access : Access Store Lookup Holdings :=
      { connect := fun store h => (h.connect store, h)
        contains := fun lookup word h => (h.contains lookup word, h) }
    let turns : List (Turn Holdings) :=
      [.ask "the", .change fun h => (h.addTable (.ofWords ["the"])).2, .ask "the", .beginSession,
        .ask "the", .ask "fox", .change fun _ => {}, .ask "fox", .ask "the"]
    let lost : Error := .stopWordLookup "stop word table was dropped"
    let session : List (Question Store Lookup) :=
      [⟨"the", false, [.connect (.memory 0) (.ok (.table 0)), .contains (.table 0) "the" (.ok true)], .yes⟩,
        ⟨"fox", true, [.contains (.table 0) "fox" (.ok false)], .no⟩,
        ⟨"fox", true, [.contains (.table 0) "fox" (.error lost)], .lookupFailed⟩,
        ⟨"the", false, [], .lookupFailed⟩]
    session ∈ ({ store := .memory 0 } : Oracle Store Lookup).sessions access turns {} ∧
      (session.flatMap Question.attempts).length ≤ 1 ∧
      ∀ q ∈ session, q.connected = true → q.attempts = [] := by
  intro access turns lost session
  have mem : session ∈ ({ store := .memory 0 } : Oracle Store Lookup).sessions access turns {} :=
    .tail _ (.head _)
  obtain ⟨once, connected, -⟩ := attempts_once_in_session access (.memory 0) turns {} mem
  exact ⟨mem, once, connected⟩

end TextAnalysis.StopWords
