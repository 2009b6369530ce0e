import TextAnalysis.Proofs.StopWords.Stage
import TextAnalysis.StopWords.Store

/-!
# Oracles of tables

A lookup into a table sees the table as it is at the time. So an oracle of a table answers by the words
that the table has now, however old its lookup is, and fails when there is no table now. Only a failure
of the same session is remembered.
-/

namespace TextAnalysis.StopWords

variable {σ : Type}

/-- What may happen to a table. -/
inductive TableChange where
  /-- The table is made of these words, in place of an older one. -/
  | create (words : List String)
  /-- A word is added. -/
  | insert (word : String)
  /-- The table is removed. -/
  | drop
deriving Repr, DecidableEq

/-- The table after a change. -/
def TableChange.apply : TableChange → Table → Table
  | create words, _ => .ofWords words
  | insert word, t => t.insert word
  | drop, _ => .missing

/-- The holdings after a change of the table with the given number. -/
def Holdings.change (h : Holdings) (n : Nat) (c : TableChange) : Holdings :=
  h.setTable n (c.apply (h.table n))

namespace Oracle

/-- An oracle reads a table if it belongs to the table and holds no lookup but one into it. -/
structure Reads (n : Nat) (o : Oracle Store Lookup) : Prop where
  store_eq : o.store = .memory n
  lookup_eq : ∀ lookup, o.handle = .connected lookup → lookup = .table n

/-- An oracle of a table that has not been asked reads the table. -/
theorem reads_pending (n : Nat) : Reads n { store := .memory n } := ⟨rfl, nofun⟩

private theorem Reads.withHandle {n : Nat} {o : Oracle Store Lookup} (hr : o.Reads n)
    {handle : Handle Lookup} (hh : ∀ lookup, handle = .connected lookup → lookup = .table n) :
    Reads n { o with handle } := ⟨hr.store_eq, hh⟩

/-- A new session does not make an oracle read anything else. -/
theorem Reads.beginSession {n : Nat} {o : Oracle Store Lookup} (hr : o.Reads n) :
    o.beginSession.Reads n := by
  obtain ⟨store, handle⟩ := o
  cases handle with
  | pending => exact hr
  | connected lookup => exact hr
  | failed => exact hr.withHandle nofun

/-- Unless it has failed in this session, an oracle of a table answers by the words that the table has
now, and is connected then. -/
theorem Reads.ask_of_present {h : Holdings} {n : Nat} {o : Oracle Store Lookup} {words : List String}
    (hr : o.Reads n) (hf : o.handle ≠ .failed) (hw : (h.table n).words? = some words) (word : String)
    (s : σ) :
    o.ask h.access word s =
      (if words.contains word then .yes else .no, { o with handle := .connected (.table n) }, s) := by
  have lookup : h.contains (.table n) word = .ok (words.contains word) := by
    rw [Holdings.contains, Table.contains, hw]
  have establish : o.establish h.access s = ({ o with handle := .connected (.table n) }, s) := by
    obtain ⟨store, handle⟩ := o
    obtain rfl : store = .memory n := hr.store_eq
    cases handle with
    | pending => simp only [Oracle.establish, Holdings.access, Holdings.connect, Table.connect,
        Table.present, hw, Option.isSome_some, if_true]
    | connected lookup =>
      obtain rfl : lookup = .table n := hr.lookup_eq lookup rfl
      rfl
    | failed => exact absurd rfl hf
  rw [ask, establish]
  simp only [consult, Holdings.access, lookup]
  cases words.contains word <;> rfl

/-- An oracle of a missing table cannot look anything up, and has failed then. -/
theorem Reads.ask_of_missing {h : Holdings} {n : Nat} {o : Oracle Store Lookup} (hr : o.Reads n)
    (hw : (h.table n).words? = none) (word : String) (s : σ) :
    o.ask h.access word s = (.lookupFailed, { o with handle := .failed }, s) := by
  obtain ⟨store, handle⟩ := o
  obtain rfl : store = .memory n := hr.store_eq
  cases handle with
  | pending => simp [ask, establish, consult, Holdings.access, Holdings.connect, Table.connect,
      Table.present, hw]
  | connected lookup =>
    obtain rfl : lookup = .table n := hr.lookup_eq lookup rfl
    simp only [ask, establish, consult, Holdings.access, Holdings.contains, Table.contains, hw]
  | failed => rfl

/-- Whatever happens to the table, an oracle that is asked reads it still. -/
theorem Reads.ask {n : Nat} {o : Oracle Store Lookup} (hr : o.Reads n) (h : Holdings) (word : String)
    (s : σ) : (o.ask h.access word s).2.1.Reads n := by
  cases hw : (h.table n).words? with
  | none =>
    rw [hr.ask_of_missing hw]
    exact hr.withHandle nofun
  | some words =>
    by_cases hf : o.handle = .failed
    · have unchanged : o.ask h.access word s = (.lookupFailed, o, s) := by
        simp only [Oracle.ask, establish, consult, hf]
      rwa [unchanged]
    · rw [hr.ask_of_present hf hw]
      exact hr.withHandle fun lookup hl => (Handle.connected.inj hl).symm

end Oracle

end TextAnalysis.StopWords

namespace TextAnalysis.Stage

open StopWords

variable {σ : Type}

/-- In a session without a failure an oracle of a table decides by the words of the table. -/
theorem decides_of_table {h : Holdings} {n : Nat} {words : List String}
    (hw : (h.table n).words? = some words) :
    Decides (h.access : Access Store Lookup σ) true
      (fun oracle => oracle.Reads n ∧ oracle.handle ≠ .failed) words.contains := by
  intro oracle word s ⟨hr, hf⟩
  refine ⟨{ oracle with handle := .connected (.table n) }, ⟨⟨hr.store_eq, ?_⟩, nofun⟩, ?_⟩
  · exact fun lookup hl => (Handle.connected.inj hl).symm
  · rw [verdict, if_pos rfl, hr.ask_of_present hf hw]

end TextAnalysis.Stage
