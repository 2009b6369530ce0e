import TextAnalysis.FirstMatch

/-!
# Laws of the cache of first matches

A cache holds the last row for which a match was found, whatever has failed since. The matches of a row are
consulted just if another row is held. So as long as each row has one first match, the column and the offset
that are told of a row are those of its own match.
-/

namespace TextAnalysis.FirstMatch

variable {σ : Type}

/-- A call: the row, how its matches are consulted, and the part of the match that is asked for. -/
structure Call (σ : Type) where
  row : Int
  consult : σ → Except Error (Option Instance) × σ
  field : Field

/-- Consulting the matches of a row, with each reply noted, the last one first. -/
def noting (consult : σ → Except Error (Option Instance) × σ) :
    List (Except Error (Option Instance)) × σ →
      Except Error (Option Instance) × List (Except Error (Option Instance)) × σ :=
  fun (replies, s) => ((consult s).1, (consult s).1 :: replies, (consult s).2)

/-- A call as it went: what was asked for, the cache before and after it, the replies of the row's matches,
if they were consulted, and the answer. -/
structure Visit where
  row : Int
  field : Field
  before : Cache
  replies : List (Except Error (Option Instance))
  answer : Except Error Int
  after : Cache

/-- The row and its match, if one was found. -/
def Visit.found? (v : Visit) : Option (Int × Instance) :=
  match v.replies with
  | [.ok (some m)] => some (v.row, m)
  | _ => none

/-- The row for which a match was found last, and that match. -/
def lastFound (visits : List Visit) : Option (Int × Instance) :=
  (visits.filterMap Visit.found?).getLast?

namespace Cache

/-- How a call goes. -/
def visit (c : Cache) (call : Call σ) (s : σ) : Visit where
  row := call.row
  field := call.field
  before := c
  replies := (c.first call.row (noting call.consult) call.field ([], s)).2.2.1.reverse
  answer := (c.first call.row call.consult call.field s).1
  after := (c.first call.row call.consult call.field s).2.1

/-- How calls go one after another. -/
def visits : List (Call σ) → Cache → σ → List Visit
  | [], _, _ => []
  | call :: calls, c, s =>
    c.visit call s ::
      visits calls (c.first call.row call.consult call.field s).2.1
        (c.first call.row call.consult call.field s).2.2

end Cache

/-! ### One call -/

namespace Cache

/-- A match is held for a row if the two were kept together. -/
theorem find?_eq_some_iff {c : Cache} {row : Int} {m : Instance} :
    c.find? row = some m ↔ c.entry = some (row, m) := by
  obtain ⟨entry⟩ := c
  cases entry with
  | none => simp [find?]
  | some kept => simp [find?, Prod.ext_iff]

/-- No match is held for any other row than the one that is kept. -/
theorem find?_eq_none_iff {c : Cache} {row : Int} : c.find? row = none ↔ c.row? ≠ some row := by
  obtain ⟨entry⟩ := c
  cases entry with
  | none => simp [find?, row?]
  | some kept => simp [find?, row?]

end Cache

/-- All ways in which a call may go. -/
inductive Visit.Goes : Visit → Prop
  | held {c : Cache} {row : Int} {m : Instance} (kept : c.entry = some (row, m)) (field : Field) :
      Goes ⟨row, field, c, [], .ok (field.of m), c⟩
  | fails {c : Cache} {row : Int} (other : c.row? ≠ some row) (field : Field) (e : Error) :
      Goes ⟨row, field, c, [.error e], .error e, c⟩
  | hasNone {c : Cache} {row : Int} (other : c.row? ≠ some row) (field : Field) :
      Goes ⟨row, field, c, [.ok none], .error (Cache.noMatch row), c⟩
  | finds {c : Cache} {row : Int} (other : c.row? ≠ some row) (field : Field) (m : Instance) :
      Goes ⟨row, field, c, [.ok (some m)], .ok (field.of m), ⟨some (row, m)⟩⟩

/-- A call goes in one of these ways, whatever the matches of the row reply. -/
theorem Cache.goes_visit (c : Cache) (call : Call σ) (s : σ) : (c.visit call s).Goes := by
  obtain ⟨row, consult, field⟩ := call
  cases held : c.find? row with
  | some m =>
    simp only [visit, first, held]
    exact .held (find?_eq_some_iff.mp held) field
  | none =>
    have other := find?_eq_none_iff.mp held
    simp only [visit, first, held, noting]
    obtain ⟨e | found, s⟩ := consult s
    · exact .fails other field e
    · cases found with
      | none => exact .hasNone other field
      | some m => exact .finds other field m

namespace Visit.Goes

variable {v : Visit}

/-- The matches of a row are consulted, once, just if that row is not held. -/
theorem length_replies (h : v.Goes) :
    v.replies.length = if v.before.row? = some v.row then 0 else 1 := by
  cases h with
  | held kept => simp [Cache.row?, kept]
  | fails other => exact (if_neg other).symm
  | hasNone other => exact (if_neg other).symm
  | finds other => exact (if_neg other).symm

/-- A call fails just if its row's matches cannot be consulted or there are none. -/
theorem answer_eq_error_iff (h : v.Goes) (e : Error) :
    v.answer = .error e ↔ v.replies = [.error e] ∨ v.replies = [.ok none] ∧ e = Cache.noMatch v.row := by
  cases h with
  | held => simp
  | fails => simp
  | hasNone => simp [eq_comm]
  | finds => simp

/-- What is held after a call is what has been found last. -/
theorem entry_after (h : v.Goes) : v.after.entry = v.found?.or v.before.entry := by
  cases h <;> rfl

/-- A call that fails leaves the cache as it was. -/
theorem after_of_error (h : v.Goes) {e : Error} (failed : v.answer = .error e) : v.after = v.before := by
  cases h with
  | held => rfl
  | fails => rfl
  | hasNone => rfl
  | finds => cases failed

/-- What a call tells is a part of the match that is held after it for its row. -/
theorem exists_of_answer (h : v.Goes) {n : Int} (told : v.answer = .ok n) :
    ∃ m, v.after.entry = some (v.row, m) ∧ n = v.field.of m := by
  cases h with
  | held kept field => exact ⟨_, kept, (Except.ok.inj told).symm⟩
  | fails => cases told
  | hasNone => cases told
  | finds _ field m => exact ⟨m, rfl, (Except.ok.inj told).symm⟩

end Visit.Goes

/-! ### Calls one after another -/

/-- What is found later counts. -/
theorem lastFound_cons (v : Visit) (visits : List Visit) :
    lastFound (v :: visits) = (lastFound visits).or v.found? := by
  cases found : v.found? with
  | none => rw [lastFound, List.filterMap_cons_none found, lastFound, Option.or_none]
  | some kept =>
    rw [lastFound, List.filterMap_cons_some found, List.getLast?_cons, lastFound, Option.or_some]

/-- What is found in the last call counts. -/
theorem lastFound_concat (visits : List Visit) (v : Visit) :
    lastFound (visits ++ [v]) = v.found?.or (lastFound visits) := by
  induction visits with
  | nil => exact (lastFound_cons v []).trans Option.or_none.symm
  | cons w visits ih => rw [List.cons_append, lastFound_cons, ih, lastFound_cons, Option.or_assoc]

/-- Each call goes in one of the ways in which calls go, and finds in the cache what has been found last. -/
theorem Cache.goes_of_visits {calls : List (Call σ)} {c : Cache} {s : σ} {before after : List Visit}
    {v : Visit} (split : c.visits calls s = before ++ v :: after) :
    v.Goes ∧ v.before.entry = (lastFound before).or c.entry := by
  induction calls generalizing c s before with
  | nil => simp [visits] at split
  | cons call calls ih =>
    have goes := c.goes_visit call s
    cases before with
    | nil =>
      obtain ⟨rfl, -⟩ := List.cons.inj split
      exact ⟨goes, rfl⟩
    | cons w before =>
      obtain ⟨rfl, rest⟩ := List.cons.inj split
      obtain ⟨here, entry⟩ := ih rest
      refine ⟨here, entry.trans ?_⟩
      rw [lastFound_cons, Option.or_assoc]
      exact congrArg _ goes.entry_after

/-- In calls with a cache that is empty at first, in any order of rows, the row that is held is always the
one for which a match was found last. The matches of a row are consulted, and only once, just if that row is
not held. A call fails just if they cannot be consulted, with that error, or if there are none, and then it
leaves the cache as it was. If each row has one first match in all calls, what is told of a row is the column
or the offset of its own match. -/
theorem Cache.calls_are_transparent (calls : List (Call σ)) (s : σ) :
    let visits := ({} : Cache).visits calls s
    (∀ before v after, visits = before ++ v :: after →
      v.before.row? = (lastFound before).map Prod.fst ∧
      v.after.row? = (lastFound (before ++ [v])).map Prod.fst ∧
      v.replies.length = (if v.before.row? = some v.row then 0 else 1) ∧
      (∀ e, v.answer = .error e ↔
        v.replies = [.error e] ∨ v.replies = [.ok none] ∧ e = noMatch v.row) ∧
      ∀ e, v.answer = .error e → v.after = v.before) ∧
    ∀ own : Int → Instance, (∀ v ∈ visits, ∀ row m, v.found? = some (row, m) → m = own row) →
      ∀ v ∈ visits, ∀ n, v.answer = .ok n → n = v.field.of (own v.row) := by
  intro visits
  constructor
  · intro before v after split
    obtain ⟨goes, entry⟩ := goes_of_visits split
    rw [Option.or_none] at entry
    refine ⟨congrArg (Option.map Prod.fst) entry, ?_, goes.length_replies, goes.answer_eq_error_iff,
      fun e => goes.after_of_error⟩
    rw [row?, goes.entry_after, lastFound_concat, entry]
  · intro own same v mem n told
    obtain ⟨before, after, split⟩ := List.append_of_mem mem
    obtain ⟨goes, entry⟩ := goes_of_visits split
    obtain ⟨m, held, rfl⟩ := goes.exists_of_answer told
    rw [Option.or_none] at entry
    rw [goes.entry_after, entry, ← lastFound_concat] at held
    obtain ⟨w, memW, found⟩ := List.mem_filterMap.mp (List.mem_of_getLast? held)
    have mem' : w ∈ visits := by
      rw [split, List.append_cons]
      exact List.mem_append_left after memW
    rw [same w mem' v.row m found]

/-- A row that cannot be consulted makes no difference to the one that is held. -/
example :
    let calls : List (Call Unit) :=
      [⟨7, fun _ => (.ok (some ⟨0, 3, 5⟩), ()), .column⟩,
        ⟨-7, fun _ => (.error (.delegate "lost"), ()), .column⟩, ⟨7, fun _ => (.ok none, ()), .offset⟩]
    (({} : Cache).visits calls ()).map Visit.answer = [.ok 3, .error (.delegate "lost"), .ok 5] := rfl

end TextAnalysis.FirstMatch
