import Mathlib.Data.List.Induction
import Mathlib.Logic.Function.Basic
import TextAnalysis.Proofs.StopWords.Tables

/-!
# Oracles that share a table

Several oracles may belong to one table, which is made, changed and removed while they are asked. What an
oracle answers can be read off what has happened: off the changes of the table and, where the table was
missing once, off the questions to this oracle in its present session. What the other oracles are asked
makes no difference.
-/

namespace TextAnalysis.StopWords

/-- Something of kind `p`, judged with all that was before it, has happened, and only things of kind `q`
have happened since. -/
def Since {α : Type} (p : List α → α → Prop) (q : α → Prop) (past : List α) : Prop :=
  ∃ before x after, past = before ++ x :: after ∧ p before x ∧ ∀ y ∈ after, q y

/-- Nothing has happened where there is no past. -/
theorem not_since_nil {α : Type} (p : List α → α → Prop) (q : α → Prop) : ¬ Since p q [] := by
  rintro ⟨before, x, after, h, -⟩
  simp at h

/-- What happens last either is of kind `p` or leaves things as they were if it is of kind `q`. -/
theorem since_concat_iff {α : Type} {p : List α → α → Prop} {q : α → Prop} {past : List α} {x : α} :
    Since p q (past ++ [x]) ↔ p past x ∨ q x ∧ Since p q past := by
  constructor
  · rintro ⟨before, y, after, h, hp, hq⟩
    rcases List.eq_nil_or_concat after with rfl | ⟨after, z, rfl⟩
    · obtain ⟨rfl, same⟩ := List.append_inj' h rfl
      obtain rfl : x = y := List.singleton_inj.mp same
      exact .inl hp
    · rw [List.concat_eq_append, ← List.cons_append, ← List.append_assoc] at h
      obtain ⟨rfl, same⟩ := List.append_inj' h rfl
      obtain rfl : x = z := List.singleton_inj.mp same
      refine .inr ⟨hq x (by simp), before, y, after, rfl, hp, ?_⟩
      intro w hw
      exact hq w (by simp [hw])
  · rintro (hp | ⟨hx, before, y, after, rfl, hp, hq⟩)
    · exact ⟨past, x, [], rfl, hp, nofun⟩
    · refine ⟨before, y, after ++ [x], by simp, hp, ?_⟩
      intro w hw
      rcases List.mem_append.mp hw with hw | hw
      · exact hq w hw
      · obtain rfl := List.mem_singleton.mp hw
        exact hx

/-! ### Histories -/

/-- What may happen where oracles share a table: the table changes, an oracle begins a session, or an
oracle is asked for a word. -/
inductive Happening (ι : Type) where
  | change (c : TableChange)
  | beginSession (i : ι)
  | ask (i : ι) (word : String)
deriving DecidableEq

namespace Happening

variable {ι : Type}

/-- Whether it has to do with the oracle `i`. -/
def concerns [DecidableEq ι] (i : ι) : Happening ι → Bool
  | change _ => true
  | beginSession j => j = i
  | ask j _ => j = i

/-- The table has been made, by all its words at once or by a first word, and not been removed since. -/
def Present (past : List (Happening ι)) : Prop :=
  Since (fun _ x => ∃ c, x = change c ∧ c ≠ .drop) (fun x => x ≠ change .drop) past

/-- The word came into the table, at its making or later, and the table has neither been made anew nor
been removed since. -/
def Holds (past : List (Happening ι)) (word : String) : Prop :=
  Since
    (fun _ x => x = change (.insert word) ∨ ∃ words, x = change (.create words) ∧ word ∈ words)
    (fun x => ∀ c, x = change c → ∃ word, c = .insert word) past

/-- The oracle was asked while the table was missing, and has begun no session since. -/
def Failed (past : List (Happening ι)) (i : ι) : Prop :=
  Since (fun before x => (∃ word, x = ask i word) ∧ ¬ Present before) (fun x => x ≠ beginSession i) past

end Happening

/-- What stores hold, and the oracles. -/
structure Sharing (ι : Type) where
  holdings : Holdings
  oracles : ι → Oracle Store Lookup

namespace Oracle

variable {S L σ : Type}

/-- After an answer an oracle is connected exactly if the lookup did not fail. -/
theorem isConnected_ask (access : Access S L σ) (o : Oracle S L) (word : String) (s : σ) :
    (o.ask access word s).2.1.isConnected = true ↔ (o.ask access word s).1 ≠ .lookupFailed := by
  rw [ask]
  obtain ⟨⟨store, handle⟩, s⟩ := o.establish access s
  cases handle with
  | pending => simp [consult, isConnected]
  | connected lookup =>
    simp only [consult]
    obtain ⟨e | found, s⟩ := access.contains lookup word s
    · simp [isConnected]
    · cases found <;> simp [isConnected]
  | failed => simp [consult, isConnected]

end Oracle

namespace Sharing

open Happening

variable {ι : Type}

/-- What an oracle answers as things are. -/
def answer (s : Sharing ι) (i : ι) (word : String) : Answer :=
  ((s.oracles i).ask s.holdings.access word ()).1

/-- A missing table beside all else that stores hold, and oracles of it that have not been asked. -/
def start (h : Holdings) : Sharing ι where
  holdings := (h.addTable .missing).2
  oracles _ := { store := .memory (h.addTable .missing).1 }

variable [DecidableEq ι]

/-- What becomes of things when something happens to the table `n` or to an oracle. -/
def after (n : Nat) (s : Sharing ι) : Happening ι → Sharing ι
  | .change c => { s with holdings := s.holdings.change n c }
  | .beginSession i =>
    { s with oracles := Function.update s.oracles i (s.oracles i).beginSession }
  | .ask i word =>
    { s with
      oracles := Function.update s.oracles i ((s.oracles i).ask s.holdings.access word ()).2.1 }

/-- What has become of things. -/
def run (h : Holdings) (past : List (Happening ι)) : Sharing ι :=
  past.foldl (after h.tables.length) (start h)

/-- The oracle has been asked, and its last answer was not that the lookup failed. -/
def Answered (h : Holdings) (past : List (Happening ι)) (i : ι) : Prop :=
  Since (fun before x => ∃ word, x = ask i word ∧ (run h before).answer i word ≠ .lookupFailed)
    (fun x => ∀ word, x ≠ ask i word) past

private theorem run_concat (h : Holdings) (past : List (Happening ι)) (x : Happening ι) :
    run h (past ++ [x]) = (run h past).after h.tables.length x := by
  rw [run, List.foldl_append]
  rfl

/-! ### The table -/

private theorem length_tables_run (h : Holdings) (past : List (Happening ι)) :
    (run h past).holdings.tables.length = h.tables.length + 1 := by
  induction past using List.reverseRecOn with
  | nil => simp [run, start, Holdings.addTable]
  | append_singleton past x ih =>
    rw [run_concat]
    cases x with
    | change c => simpa [after, Holdings.change, Holdings.setTable] using ih
    | beginSession i => exact ih
    | ask i word => exact ih

/-- The shared table. -/
def table (h : Holdings) (past : List (Happening ι)) : Table :=
  (run h past).holdings.table h.tables.length

private theorem table_nil (h : Holdings) : table (ι := ι) h [] = .missing := by
  simp [table, run, start, Holdings.addTable, Holdings.table]

private theorem table_concat_change (h : Holdings) (past : List (Happening ι)) (c : TableChange) :
    table h (past ++ [.change c]) = c.apply (table h past) := by
  have inside : h.tables.length < (run h past).holdings.tables.length := by
    rw [length_tables_run]
    omega
  rw [table, run_concat]
  simp [after, Holdings.change, Holdings.setTable, Holdings.table, inside, table]

private theorem table_concat_beginSession (h : Holdings) (past : List (Happening ι)) (i : ι) :
    table h (past ++ [.beginSession i]) = table h past := by
  rw [table, run_concat]
  rfl

private theorem table_concat_ask (h : Holdings) (past : List (Happening ι)) (i : ι) (word : String) :
    table h (past ++ [.ask i word]) = table h past := by
  rw [table, run_concat]
  rfl

/-- There is a table exactly if it was made and not removed since. -/
theorem words?_ne_none_iff (h : Holdings) (past : List (Happening ι)) :
    (table h past).words? ≠ none ↔ Present past := by
  induction past using List.reverseRecOn with
  | nil =>
    rw [table_nil]
    exact ⟨fun hn => absurd rfl hn, fun hp => absurd hp (not_since_nil _ _)⟩
  | append_singleton past x ih =>
    rw [Present, since_concat_iff]
    cases x with
    | change c =>
      rw [table_concat_change]
      cases c <;> simp [TableChange.apply, Table.ofWords, Table.insert, Table.missing]
    | beginSession i =>
      rw [table_concat_beginSession, ih]
      simp [Present]
    | ask i word =>
      rw [table_concat_ask, ih]
      simp [Present]

/-- A word is in the table exactly if it came into it and has stayed. -/
theorem mem_words?_iff (h : Holdings) (past : List (Happening ι)) (word : String) :
    (∃ words, (table h past).words? = some words ∧ word ∈ words) ↔ Holds past word := by
  induction past using List.reverseRecOn with
  | nil =>
    rw [table_nil]
    constructor
    · rintro ⟨words, hw, -⟩
      cases hw
    · exact fun hp => absurd hp (not_since_nil _ _)
  | append_singleton past x ih =>
    rw [Holds, since_concat_iff]
    cases x with
    | change c =>
      rw [table_concat_change]
      cases c with
      | create words => simp [TableChange.apply, Table.ofWords]
      | insert other =>
        have kept : Holds past word ↔ word ∈ (table h past).words?.getD [] := by
          rw [← ih]
          cases (table h past).words? <;> simp
        rw [Holds] at kept
        simp [TableChange.apply, Table.insert, kept, eq_comm]
      | drop => simp [TableChange.apply, Table.missing]
    | beginSession i =>
      rw [table_concat_beginSession, ih]
      simp [Holds]
    | ask i asked =>
      rw [table_concat_ask, ih]
      simp [Holds]

/-! ### The oracles -/

private theorem oracle_concat_change (h : Holdings) (past : List (Happening ι)) (c : TableChange)
    (i : ι) : (run h (past ++ [.change c])).oracles i = (run h past).oracles i := by
  rw [run_concat]
  rfl

private theorem oracle_concat_beginSession (h : Holdings) (past : List (Happening ι)) (i j : ι) :
    (run h (past ++ [.beginSession j])).oracles i =
      if i = j then ((run h past).oracles i).beginSession else (run h past).oracles i := by
  rw [run_concat, after]
  by_cases same : i = j
  · subst same
    simp
  · simp [same]

private theorem oracle_concat_ask (h : Holdings) (past : List (Happening ι)) (i j : ι)
    (word : String) :
    (run h (past ++ [.ask j word])).oracles i =
      if i = j then (((run h past).oracles i).ask (run h past).holdings.access word ()).2.1
      else (run h past).oracles i := by
  rw [run_concat, after]
  by_cases same : i = j
  · subst same
    simp
  · simp [same]

private theorem reads_run (h : Holdings) (past : List (Happening ι)) (i : ι) :
    ((run h past).oracles i).Reads h.tables.length := by
  induction past using List.reverseRecOn with
  | nil => exact Oracle.reads_pending _
  | append_singleton past x ih =>
    cases x with
    | change c =>
      rw [oracle_concat_change]
      exact ih
    | beginSession j =>
      rw [oracle_concat_beginSession]
      split
      · exact ih.beginSession
      · exact ih
    | ask j word =>
      rw [oracle_concat_ask]
      split
      · exact ih.ask _ word ()
      · exact ih

/-- An oracle has failed exactly if it found the table missing in its present session. -/
theorem handle_eq_failed_iff (h : Holdings) (past : List (Happening ι)) (i : ι) :
    ((run h past).oracles i).handle = .failed ↔ Failed past i := by
  induction past using List.reverseRecOn with
  | nil => exact ⟨nofun, fun hf => absurd hf (not_since_nil _ _)⟩
  | append_singleton past x ih =>
    rw [Failed, since_concat_iff]
    cases x with
    | change c =>
      rw [oracle_concat_change, ih]
      simp [Failed]
    | beginSession j =>
      rw [oracle_concat_beginSession]
      by_cases same : i = j
      · subst same
        simp [Oracle.handle_beginSession_ne]
      · simpa [same, Ne.symm same, Failed] using ih
    | ask j word =>
      rw [oracle_concat_ask]
      by_cases same : i = j
      · subst same
        rw [if_pos rfl]
        have reads := reads_run h past i
        cases hw : (table h past).words? with
        | none =>
          have missing : ¬ Present past := fun hp => (words?_ne_none_iff h past).mpr hp hw
          rw [reads.ask_of_missing hw]
          simp [missing]
        | some words =>
          have present : Present past := (words?_ne_none_iff h past).mp (by simp [hw])
          by_cases hf : ((run h past).oracles i).handle = .failed
          · rw [Oracle.ask_of_failed _ hf]
            simpa [present, Failed] using ih
          · rw [reads.ask_of_present hf hw]
            simpa [present, hf, Failed] using ih
      · simpa [same, Ne.symm same, Failed] using ih

/-- An oracle is connected exactly if its last answer was no failure. -/
theorem isConnected_iff (h : Holdings) (past : List (Happening ι)) (i : ι) :
    ((run h past).oracles i).isConnected = true ↔ Answered h past i := by
  induction past using List.reverseRecOn with
  | nil => exact ⟨nofun, fun hf => absurd hf (not_since_nil _ _)⟩
  | append_singleton past x ih =>
    rw [Answered, since_concat_iff]
    cases x with
    | change c =>
      rw [oracle_concat_change, ih]
      simp [Answered]
    | beginSession j =>
      have kept : ((run h (past ++ [.beginSession j])).oracles i).isConnected =
          ((run h past).oracles i).isConnected := by
        rw [oracle_concat_beginSession]
        split
        · exact Oracle.isConnected_beginSession _
        · rfl
      rw [kept, ih]
      simp [Answered]
    | ask j word =>
      rw [oracle_concat_ask]
      by_cases same : i = j
      · subst same
        simp [Oracle.isConnected_ask, answer]
      · simpa [same, Ne.symm same, Answered] using ih

/-- What an oracle answers, read off what has happened. -/
private theorem answer_eq (h : Holdings) (past : List (Happening ι)) (i : ι) (word : String)
    [Decidable (Present past ∧ ¬ Failed past i)] [Decidable (Holds past word)] :
    (run h past).answer i word =
      if Present past ∧ ¬ Failed past i then if Holds past word then .yes else .no
      else .lookupFailed := by
  have reads := reads_run h past i
  cases hw : (table h past).words? with
  | none =>
    have missing : ¬ Present past := fun hp => (words?_ne_none_iff h past).mpr hp hw
    rw [answer, reads.ask_of_missing hw, if_neg fun hp => missing hp.1]
  | some words =>
    have present : Present past := (words?_ne_none_iff h past).mp (by simp [hw])
    have holds : Holds past word ↔ word ∈ words := by
      rw [← mem_words?_iff h past word, hw]
      simp
    by_cases hf : ((run h past).oracles i).handle = .failed
    · have failed := (handle_eq_failed_iff h past i).mp hf
      rw [answer, Oracle.ask_of_failed _ hf, if_neg fun hp => hp.2 failed]
    · have unfailed : ¬ Failed past i := fun failed => hf ((handle_eq_failed_iff h past i).mpr failed)
      rw [answer, reads.ask_of_present hf hw]
      simp [present, unfailed, holds]

/-- Only the table and the oracle itself make an oracle what it is. -/
private theorem run_filter_concerns (h : Holdings) (past : List (Happening ι)) (i : ι) :
    (run h (past.filter (concerns i))).holdings = (run h past).holdings ∧
      (run h (past.filter (concerns i))).oracles i = (run h past).oracles i := by
  induction past using List.reverseRecOn with
  | nil => exact ⟨rfl, rfl⟩
  | append_singleton past x ih =>
    obtain ⟨holdings, oracle⟩ := ih
    rw [List.filter_append]
    cases x with
    | change c =>
      have kept : [Happening.change c].filter (concerns i) = [.change c] := rfl
      rw [kept, run_concat, run_concat]
      exact ⟨congrArg (·.change h.tables.length c) holdings, oracle⟩
    | beginSession j =>
      by_cases same : i = j
      · have kept : [Happening.beginSession j].filter (concerns i) = [.beginSession j] := by
          simp [concerns, same]
        rw [kept, oracle_concat_beginSession, oracle_concat_beginSession, oracle, run_concat, run_concat]
        exact ⟨holdings, rfl⟩
      · have dropped : [Happening.beginSession j].filter (concerns i) = [] := by
          simp [concerns, Ne.symm same]
        rw [dropped, List.append_nil, oracle_concat_beginSession, if_neg same, run_concat]
        exact ⟨holdings, oracle⟩
    | ask j word =>
      by_cases same : i = j
      · have kept : [Happening.ask j word].filter (concerns i) = [.ask j word] := by
          simp [concerns, same]
        rw [kept, oracle_concat_ask, oracle_concat_ask, oracle, holdings, run_concat, run_concat]
        exact ⟨holdings, rfl⟩
      · have dropped : [Happening.ask j word].filter (concerns i) = [] := by
          simp [concerns, Ne.symm same]
        rw [dropped, List.append_nil, oracle_concat_ask, if_neg same, run_concat]
        exact ⟨holdings, oracle⟩

/-- Oracles of one table answer by what has happened. An oracle answers that the lookup failed exactly if
the table is missing or the oracle was asked while it was missing, in the same session. Otherwise it tells
whether the word is one of those that the table was last made of or that were added since. It is connected
exactly if it has been asked and the last answer was no failure. What happens to the other oracles makes no
difference to any of this. -/
theorem answers_of_history (h : Holdings) (past : List (Happening ι)) (i : ι) :
    (∀ word,
      ((run h past).answer i word = .lookupFailed ↔ ¬ Present past ∨ Failed past i) ∧
      ((run h past).answer i word = .yes ↔ Present past ∧ ¬ Failed past i ∧ Holds past word) ∧
      ((run h past).answer i word = .no ↔ Present past ∧ ¬ Failed past i ∧ ¬ Holds past word)) ∧
    (((run h past).oracles i).isConnected = true ↔ Answered h past i) ∧
    (∀ word, (run h (past.filter (concerns i))).answer i word = (run h past).answer i word) ∧
    ((run h (past.filter (concerns i))).oracles i).isConnected =
      ((run h past).oracles i).isConnected := by
  classical
  obtain ⟨holdings, oracle⟩ := run_filter_concerns h past i
  refine ⟨?_, isConnected_iff h past i, ?_, by rw [oracle]⟩
  · intro word
    rw [answer_eq]
    by_cases hp : Present past <;> by_cases hf : Failed past i <;> by_cases hw : Holds past word <;>
      simp [hp, hf, hw]
  · intro word
    rw [answer, answer, holdings, oracle]

/-- Of two oracles, only the one that was asked while the table was missing fails when it is back. -/
example :
    let past : List (Happening Bool) :=
      [.change (.create ["the"]), .ask true "the", .change .drop, .ask true "the",
        .change (.insert "the")]
    (run {} past).answer true "the" = .lookupFailed ∧ (run {} past).answer false "the" = .yes := by
  decide

end Sharing

end TextAnalysis.StopWords
