import TextAnalysis.Proofs.StopWords.Stage
import TextAnalysis.StopWords.Store

/-!
# Oracles of files

A lookup into a file holds the words that the file had when the oracle connected, and answers by them from
then on, whatever becomes of the file. Before, the oracle tries to connect at the first token of a call that
is long enough, and only once in the call. The stores may change at any time, also while a call is under way.
-/

namespace TextAnalysis

namespace StopWords

variable {S L σ : Type}

namespace Access

/-- The ways to consult stores, with each attempt to connect noted and what came of it, the last one
first. -/
def notingAttempts (access : Access S L σ) : Access S L (List (S × Except Error L) × σ) where
  connect store s :=
    ((access.connect store s.2).1, (store, (access.connect store s.2).1) :: s.1,
      (access.connect store s.2).2)
  contains lookup word s :=
    ((access.contains lookup word s.2).1, s.1, (access.contains lookup word s.2).2)

variable {access : Access Store Lookup σ}

/-- Words that were read are looked up in themselves, and nothing else has to do with it. -/
def AnswersSnapshots (access : Access Store Lookup σ) : Prop :=
  ∀ words word s, access.contains (.snapshot words) word s = (.ok (words.contains word), s)

/-- What else the state holds makes no difference. -/
theorem AnswersSnapshots.beside (answers : access.AnswersSnapshots) (τ : Type) :
    (access.beside τ).AnswersSnapshots := by
  intro words word s
  rw [contains_beside, answers]

/-- Noting the attempts makes no difference. -/
theorem AnswersSnapshots.notingAttempts (answers : access.AnswersSnapshots) :
    access.notingAttempts.AnswersSnapshots := by
  intro words word s
  simp only [Access.notingAttempts, answers words word s.2]

/-- In the state `s` the file at the path is found as said, and nothing changes when it is read. -/
def Finds (access : Access Store Lookup σ) (path : String) (s : σ)
    (found : Except Error (List String)) : Prop :=
  access.connect (.file path) s = (found.map .snapshot, s)

/-- What else the state holds makes no difference to what is found. -/
theorem Finds.beside {path : String} {s : σ} {found : Except Error (List String)}
    (finds : access.Finds path s found) {τ : Type} (t : τ) :
    (access.beside τ).Finds path (t, s) found := by
  rw [Finds, connect_beside, finds]

end Access

namespace Holdings

/-- Consulting stores that are a part of the state, as they are at the time. -/
def live : Access Store Lookup (Holdings × σ) where
  connect store s := (s.1.connect store, s)
  contains lookup word s := (s.1.contains lookup word, s)

/-- The words of the file at a path, or the error if it is missing or no text. -/
def wordsAt (h : Holdings) (path : String) : Except Error (List String) :=
  match h.files.readText path with
  | .ok content => .ok (wordsOfText content)
  | .error fault => .error (.stopWordLookup (path ++ ": " ++ fault.message))

/-- A lookup into a file holds the words of the file. -/
theorem connect_file (h : Holdings) (path : String) :
    h.connect (.file path) = (h.wordsAt path).map .snapshot := by
  rw [connect, wordsAt]
  cases h.files.readText path <;> rfl

/-- Words that were read are looked up in themselves, whatever becomes of the stores. -/
theorem live_answers : (live : Access Store Lookup (Holdings × σ)).AnswersSnapshots := fun _ _ _ => rfl

/-- A file is found as it is at the time. -/
theorem live_finds (h : Holdings) (path : String) (s : σ) :
    (live : Access Store Lookup (Holdings × σ)).Finds path (h, s) (h.wordsAt path) := by
  rw [Access.Finds, ← connect_file]
  rfl

end Holdings

namespace Oracle

/-! ### Stores that are a part of the state -/

/-- Connecting to stores that are a part of the state leaves them alone. -/
theorem establish_live (o : Oracle Store Lookup) (h : Holdings) (s : σ) :
    o.establish Holdings.live (h, s) =
      ((o.establish h.access s).1, h, (o.establish h.access s).2) := by
  obtain ⟨store, handle⟩ := o
  cases handle with
  | pending =>
    simp only [establish, Holdings.live, Holdings.access]
    cases h.connect store <;> rfl
  | _ => rfl

/-- Looking a word up in stores that are a part of the state leaves them alone. -/
theorem consult_live (o : Oracle Store Lookup) (h : Holdings) (word : String) (s : σ) :
    o.consult Holdings.live word (h, s) =
      ((o.consult h.access word s).1, (o.consult h.access word s).2.1, h,
        (o.consult h.access word s).2.2) := by
  obtain ⟨store, handle⟩ := o
  cases handle with
  | connected lookup =>
    simp only [consult, Holdings.live, Holdings.access]
    obtain e | found := h.contains lookup word
    · rfl
    · cases found <;> rfl
  | _ => rfl

/-- An oracle answers by stores that are a part of the state as by stores that stay as they are. -/
theorem ask_live (o : Oracle Store Lookup) (h : Holdings) (word : String) (s : σ) :
    o.ask Holdings.live word (h, s) =
      ((o.ask h.access word s).1, (o.ask h.access word s).2.1, h, (o.ask h.access word s).2.2) := by
  rw [ask, ask, establish_live]
  exact consult_live (o.establish h.access s).1 h word (o.establish h.access s).2

/-! ### What has been read -/

/-- The oracle of a file that has read these words from it, or has read nothing yet. -/
def ofFile (path : String) : Option (List String) → Oracle Store Lookup
  | none => { store := .file path }
  | some words => { store := .file path, handle := .connected (.snapshot words) }

/-- A new session leaves what has been read. -/
theorem beginSession_ofFile (path : String) (read : Option (List String)) :
    (ofFile path read).beginSession = ofFile path read := by
  cases read <;> rfl

/-- The oracle is connected if it has read the file. -/
theorem isConnected_ofFile (path : String) (read : Option (List String)) :
    (ofFile path read).isConnected = read.isSome := by
  cases read <;> rfl

/-- An oracle that connects to a file has read the words that are found. -/
theorem establish_ofFile_of_ok {access : Access Store Lookup σ} {path : String} {words : List String}
    {s s' : σ} (connected : access.connect (.file path) s = (.ok (.snapshot words), s')) :
    (ofFile path none).establish access s = (ofFile path (some words), s') := by
  simp only [establish, ofFile, connected]

/-- An oracle that cannot connect to a file has failed in this session. -/
theorem establish_ofFile_of_error {access : Access Store Lookup σ} {path : String} {e : Error} {s s' : σ}
    (failed : access.connect (.file path) s = (.error e, s')) :
    (ofFile path none).establish access s = ({ store := .file path, handle := .failed }, s') := by
  simp only [establish, ofFile, failed]

end Oracle

end StopWords

namespace Stage

open StopWords

/-- Where the sink leaves the stores alone, a walk with stores that are a part of the state is one with stores
that stay as they are. -/
theorem walk_live {σ : Type} (stage : Stage) (suppress : Bool) (sink : Sink σ)
    (ending : Except Error Flow) (tokens : List Token) (oracle : Oracle Store Lookup) (h : Holdings)
    (s : σ) :
    stage.walk Holdings.live suppress (sink.beside Holdings) ending tokens oracle (h, s) =
      ((stage.walk h.access suppress sink ending tokens oracle s).1,
        (stage.walk h.access suppress sink ending tokens oracle s).2.1, h,
        (stage.walk h.access suppress sink ending tokens oracle s).2.2) := by
  induction tokens generalizing oracle s with
  | nil => rfl
  | cons token tokens ih =>
    have asked : verdict Holdings.live suppress token.text oracle (h, s) =
        ((verdict h.access suppress token.text oracle s).1,
          (verdict h.access suppress token.text oracle s).2.1, h,
          (verdict h.access suppress token.text oracle s).2.2) := by
      cases suppress with
      | false => rfl
      | true => exact oracle.ask_live h token.text s
    rw [walk, walk, asked]
    by_cases hl : token.text.utf8ByteSize < stage.leastLength
    · rw [if_pos hl, if_pos hl, ih]
    · rw [if_neg hl, if_neg hl]
      obtain ⟨answer, oracle, s⟩ := verdict h.access suppress token.text oracle s
      cases answer with
      | yes => exact ih oracle s
      | lookupFailed => rfl
      | no =>
        simp only [Sink.beside]
        obtain ⟨reply, s⟩ := sink { token with text := stage.cascade.stem token.text } s
        obtain e | flow := reply
        · rfl
        · cases flow with
          | proceed => exact ih oracle s
          | halt => rfl

/-- The tokens that are left of a call, stemmed, if these stop words have been read. -/
def left (stage : Stage) (suppress : Bool) (read : Option (List String)) (tokens : List Token) :
    List Token :=
  stage.stems (tokens.filter fun token => !(suppress && (read.getD []).contains token.text))

/-- A call must read the file: stop words are suppressed, none have been read yet, and there is a token that
is long enough to be looked for. -/
structure MustRead (stage : Stage) (suppress : Bool) (read : Option (List String)) (tokens : List Token) :
    Prop where
  suppress : suppress = true
  unread : read = none
  long : ∃ token ∈ tokens, stage.leastLength ≤ token.size

variable {σ : Type} {access : Access Store Lookup σ} {stage : Stage} {suppress : Bool}
  {read : Option (List String)} {tokens : List Token} {path : String} {words : List String} {s s' : σ}

/-- Short tokens are not left, whatever has been read. -/
theorem left_of_short (short : ∀ token ∈ tokens, token.size < stage.leastLength) (suppress : Bool)
    (read : Option (List String)) : stage.left suppress read tokens = [] := by
  rw [left, stems, List.filter_filter, List.map_eq_nil_iff, List.filter_eq_nil_iff]
  intro token ht
  have hl : ¬ stage.leastLength ≤ token.size := Nat.not_le.mpr (short token ht)
  simp [hl]

/-- What has been read need not be read. -/
theorem not_mustRead_some : ¬ stage.MustRead suppress (some words) tokens := fun must => nomatch must.unread

/-- If the file need not be read, stop words stay, some have been read, or all tokens are short. -/
theorem cases_of_not_mustRead (settled : ¬ stage.MustRead suppress read tokens) :
    suppress = false ∨ (∃ words, read = some words) ∨
      ∀ token ∈ tokens, token.size < stage.leastLength := by
  by_cases long : ∃ token ∈ tokens, stage.leastLength ≤ token.size
  · cases suppress with
    | false => exact .inl rfl
    | true =>
      cases read with
      | none => exact absurd ⟨rfl, rfl, long⟩ settled
      | some words => exact .inr (.inl ⟨words, rfl⟩)
  · exact .inr (.inr fun token ht => Nat.not_le.mp fun hl => long ⟨token, ht, hl⟩)

/-- If the file need not be read, words that might be read make no difference. -/
theorem left_of_not_mustRead (settled : ¬ stage.MustRead suppress none tokens)
    (read : Option (List String)) : stage.left suppress read tokens = stage.left suppress none tokens := by
  obtain rfl | ⟨words, impossible⟩ | short := cases_of_not_mustRead settled
  · rfl
  · cases impossible
  · rw [left_of_short short, left_of_short short]

/-- An oracle that has read words decides by them and stays as it is. -/
theorem decides_of_snapshot (answers : access.AnswersSnapshots) (path : String) (words : List String) :
    Decides access true (· = .ofFile path (some words)) words.contains := by
  rintro _ word s rfl
  refine ⟨_, rfl, ?_⟩
  have established : (Oracle.ofFile path (some words)).establish access s =
      (.ofFile path (some words), s) := rfl
  rw [verdict, if_pos rfl, Oracle.ask, established]
  simp only [Oracle.consult, Oracle.ofFile, answers words word s]
  cases words.contains word <;> rfl

/-- In a call in which the file need not be read the tokens that are left are delivered, and the oracle stays
as it is. -/
theorem walk_of_not_mustRead (answers : access.AnswersSnapshots)
    (settled : ¬ stage.MustRead suppress read tokens) (path : String) (sink : Sink σ)
    (ending : Except Error Flow) (s : σ) :
    stage.walk access suppress sink ending tokens (.ofFile path read) s =
      ((deliver sink ending (stage.left suppress read tokens) s).1, .ofFile path read,
        (deliver sink ending (stage.left suppress read tokens) s).2) := by
  cases suppress with
  | false =>
    have all : stage.left false read tokens = stage.stems tokens :=
      congrArg stage.stems (List.filter_eq_self.mpr fun _ _ => rfl)
    rw [all, walk_unsuppressed]
  | true =>
    obtain impossible | ⟨words, rfl⟩ | short := cases_of_not_mustRead settled
    · cases impossible
    · obtain ⟨_, rfl, walked⟩ :=
        walk_of_decides (decides_of_snapshot answers path words) stage sink ending tokens s rfl
      exact walked
    · rw [left_of_short short, walk_of_short access true sink ending short]
      rfl

/-- A call in which the file is read goes on with the words that are found. -/
theorem walk_of_connected (answers : access.AnswersSnapshots) (must : stage.MustRead suppress none tokens)
    (connected : access.connect (.file path) s = (.ok (.snapshot words), s')) (sink : Sink σ)
    (ending : Except Error Flow) :
    stage.walk access suppress sink ending tokens (.ofFile path none) s =
      ((deliver sink ending (stage.left suppress (some words) tokens) s').1, .ofFile path (some words),
        (deliver sink ending (stage.left suppress (some words) tokens) s').2) := by
  obtain ⟨rfl, -, long⟩ := must
  rw [← walk_establish access sink ending long, Oracle.establish_ofFile_of_ok connected,
    walk_of_not_mustRead answers not_mustRead_some]

/-- A call in which the file cannot be read fails at the first token that is long enough. -/
theorem walk_of_unreadable (must : stage.MustRead suppress none tokens) {e : Error}
    (failed : access.connect (.file path) s = (.error e, s')) (sink : Sink σ)
    (ending : Except Error Flow) :
    stage.walk access suppress sink ending tokens (.ofFile path none) s =
      (stage.unanswered ending tokens, { store := .file path, handle := .failed }, s') := by
  obtain ⟨rfl, -, long⟩ := must
  rw [← walk_establish access sink ending long, Oracle.establish_ofFile_of_error failed,
    walk_of_failed access rfl]

end Stage

end TextAnalysis
