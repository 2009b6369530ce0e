import TextAnalysis.StopWords.Oracle

/-!
# Laws of oracles

A new session changes nothing but a failed handle, so an oracle is connected after it exactly if it was
before. In one session an oracle tries to connect at most once. Asking does not depend on what else the state
holds. What is asked of the stores can be noted.
-/

namespace TextAnalysis.StopWords

variable {S L σ : Type}

/-- Connecting where the state has one part more leaves that part alone. -/
theorem Access.connect_beside {τ : Type} (access : Access S L σ) (store : S) (t : τ) (s : σ) :
    (access.beside τ).connect store (t, s) =
      ((access.connect store s).1, t, (access.connect store s).2) := rfl

/-- Looking up where the state has one part more leaves that part alone. -/
theorem Access.contains_beside {τ : Type} (access : Access S L σ) (lookup : L) (word : String) (t : τ)
    (s : σ) : (access.beside τ).contains lookup word (t, s) =
      ((access.contains lookup word s).1, t, (access.contains lookup word s).2) := rfl

/-- What is asked of stop-word stores: a connection, or a word through a connection. -/
inductive Consultation (S L : Type) where
  | connect (store : S)
  | contains (lookup : L) (word : String)
deriving Repr, DecidableEq

/-- The ways to consult stores, with each consultation noted, the last one first. -/
def Access.noting (access : Access S L σ) : Access S L (List (Consultation S L) × σ) where
  connect store s :=
    ((access.connect store s.2).1, .connect store :: s.1, (access.connect store s.2).2)
  contains lookup word s :=
    ((access.contains lookup word s.2).1, .contains lookup word :: s.1,
      (access.contains lookup word s.2).2)

namespace Oracle

/-- After a new session has begun an oracle has not failed. -/
theorem handle_beginSession_ne (o : Oracle S L) : o.beginSession.handle ≠ .failed := by
  rw [beginSession]
  split
  · exact nofun
  · next h => exact h

/-- A new session neither makes nor breaks a connection. -/
theorem isConnected_beginSession (o : Oracle S L) : o.beginSession.isConnected = o.isConnected := by
  rw [beginSession]
  split
  · next h => rw [isConnected, isConnected, h]
  · rfl

/-- After it has tried to connect an oracle does not try again. -/
theorem establish_of_ne_pending (access : Access S L σ) {o : Oracle S L} (h : o.handle ≠ .pending)
    (s : σ) : o.establish access s = (o, s) := by
  rw [establish]
  split
  · next pending => exact absurd pending h
  · rfl

/-- After an oracle has tried to connect, its handle tells how that went. -/
theorem handle_establish_ne (access : Access S L σ) (o : Oracle S L) (s : σ) :
    (o.establish access s).1.handle ≠ .pending := by
  rw [establish]
  split
  · split
    · exact nofun
    · exact nofun
  · next h => exact h

/-- To connect first makes no difference to a question. -/
theorem ask_establish (access : Access S L σ) (o : Oracle S L) (word : String) (s : σ) :
    (o.establish access s).1.ask access word (o.establish access s).2 = o.ask access word s := by
  rw [ask, establish_of_ne_pending access (o.handle_establish_ne access s), ask]

/-- An oracle that has failed answers nothing else in its session. -/
theorem ask_of_failed (access : Access S L σ) {o : Oracle S L} (hf : o.handle = .failed) (word : String)
    (s : σ) : o.ask access word s = (.lookupFailed, o, s) := by
  simp only [ask, establish, consult, hf]

/-- Connecting does not touch what else the state holds. -/
theorem establish_beside {τ : Type} (access : Access S L σ) (o : Oracle S L) (t : τ) (s : σ) :
    o.establish (access.beside τ) (t, s) =
      ((o.establish access s).1, t, (o.establish access s).2) := by
  rw [establish, establish]
  cases o.handle with
  | pending =>
    simp only [Access.connect_beside]
    obtain ⟨r, s⟩ := access.connect o.store s
    cases r <;> rfl
  | connected lookup => rfl
  | failed => rfl

/-- Looking a word up does not touch what else the state holds. -/
theorem consult_beside {τ : Type} (access : Access S L σ) (o : Oracle S L) (word : String) (t : τ)
    (s : σ) :
    o.consult (access.beside τ) word (t, s) =
      ((o.consult access word s).1, (o.consult access word s).2.1, t,
        (o.consult access word s).2.2) := by
  rw [consult, consult]
  cases o.handle with
  | pending => rfl
  | connected lookup =>
    simp only [Access.contains_beside]
    obtain ⟨r, s⟩ := access.contains lookup word s
    obtain e | found := r
    · rfl
    · cases found <;> rfl
  | failed => rfl

/-- Asking does not touch what else the state holds. -/
theorem ask_beside {τ : Type} (access : Access S L σ) (o : Oracle S L) (word : String) (t : τ) (s : σ) :
    o.ask (access.beside τ) word (t, s) =
      ((o.ask access word s).1, (o.ask access word s).2.1, t, (o.ask access word s).2.2) := by
  rw [ask, ask, establish_beside]
  exact consult_beside access _ word t _

end Oracle

end TextAnalysis.StopWords
