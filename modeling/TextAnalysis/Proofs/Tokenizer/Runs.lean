import TextAnalysis.Proofs.Text.Span
import TextAnalysis.Proofs.Token.Delivery
import TextAnalysis.Tokenizer.Runs

/-!
# The runs of a text

A text falls into runs and what lies between them. Reading a text character by character hands a sink
the tokens of its runs, in order, as long as the sink wants them. Each token has a place in the text
between two characters, the places follow one another, and the text of a token is what the folding
rule makes of its source.
-/

namespace TextAnalysis

/-- A run of a text: the byte at which it begins and its characters. -/
structure Run where
  start : Nat
  characters : List Char
deriving Repr, DecidableEq

/-- The byte at which a run ends. -/
def Run.stop (run : Run) : Nat := run.start + Text.byteLength run.characters

namespace RunRule

variable {σ : Type}

/-- Each character that begins a run can also continue one. -/
def Coherent (rule : RunRule) : Prop := ∀ c, rule.begins c = true → rule.continues c = true

/-- What a text becomes as the text of a token. -/
def foldText (rule : RunRule) (source : String) : String := String.ofList (rule.foldAll source.toList)

/-- The token of a run, unless nothing is left of the run. -/
def token? (rule : RunRule) (run : Run) : Option Token :=
  if rule.foldAll run.characters = [] then none
  else some { text := String.ofList (rule.foldAll run.characters), start := run.start, stop := run.stop }

/-- The runs of the characters that begin at byte `offset`, where no run is open. -/
def runs (rule : RunRule) (offset : Nat) : List Char → List Run
  | [] => []
  | c :: cs =>
    if rule.begins c then
      ⟨offset, c :: cs.takeWhile rule.continues⟩ ::
        runs rule (offset + Text.byteLength (c :: cs.takeWhile rule.continues))
          (cs.dropWhile rule.continues)
    else runs rule (offset + c.utf8Size) cs
termination_by cs => cs.length
decreasing_by
  · have := (List.dropWhile_suffix rule.continues (l := cs)).length_le
    simp only [List.length_cons]
    omega
  · simp only [List.length_cons]
    omega

/-- The tokens of a text, in order. -/
def tokens (rule : RunRule) (text : String) : List Token :=
  (rule.runs 0 text.toList).filterMap rule.token?

/-! ### Reading hands on the tokens -/

private theorem close_eq (rule : RunRule) (sink : Sink σ) (run : OpenRun) (s : σ) :
    rule.close sink run (run.start + Text.byteLength run.characters.reverse) s =
      deliver sink (.ok .proceed) (rule.token? ⟨run.start, run.characters.reverse⟩).toList s := by
  simp only [close, token?, Run.stop]
  by_cases hf : rule.foldAll run.characters.reverse = []
  · rw [if_pos hf, if_pos hf]
    rfl
  · rw [if_neg hf, if_neg hf, Option.toList_some, deliver_singleton]

/-- Where a run begins, it goes on as long as characters continue it. -/
theorem runs_of_begins {rule : RunRule} {offset : Nat} {c : Char} {cs : List Char}
    (h : rule.begins c = true) :
    rule.runs offset (c :: cs) =
      ⟨offset, c :: cs.takeWhile rule.continues⟩ ::
        rule.runs (offset + Text.byteLength (c :: cs.takeWhile rule.continues))
          (cs.dropWhile rule.continues) := by
  rw [runs, if_pos h]

/-- A character that begins no run is passed over. -/
theorem runs_of_not_begins {rule : RunRule} {offset : Nat} {c : Char} {cs : List Char}
    (h : ¬ rule.begins c = true) :
    rule.runs offset (c :: cs) = rule.runs (offset + c.utf8Size) cs := by
  rw [runs, if_neg h]

/-- The tokens that are still to come where a run is open: that of the open run, as far as it goes on,
and those after it. -/
private def tokensAfter (rule : RunRule) (run : OpenRun) (cs : List Char) : List Token :=
  (rule.token? ⟨run.start, run.characters.reverse ++ cs.takeWhile rule.continues⟩).toList ++
    (rule.runs
      (run.start + Text.byteLength (run.characters.reverse ++ cs.takeWhile rule.continues))
      (cs.dropWhile rule.continues)).filterMap rule.token?

private theorem filterMap_runs_of_begins {rule : RunRule} {offset : Nat} {c : Char} {cs : List Char}
    (h : rule.begins c = true) :
    (rule.runs offset (c :: cs)).filterMap rule.token? = rule.tokensAfter ⟨offset, [c]⟩ cs := by
  rw [runs_of_begins h, List.filterMap_cons, tokensAfter, List.reverse_singleton,
    List.singleton_append]
  cases rule.token? ⟨offset, c :: cs.takeWhile rule.continues⟩ <;> rfl

-- The scan is in one of two states, so both statements go through the induction together.
private theorem scan_eq {rule : RunRule} (coherent : rule.Coherent) (sink : Sink σ) (cs : List Char) :
    (∀ offset s, rule.scan sink offset none cs s =
      deliver sink (.ok .proceed) ((rule.runs offset cs).filterMap rule.token?) s) ∧
    (∀ (run : OpenRun) s,
      rule.scan sink (run.start + Text.byteLength run.characters.reverse) (some run) cs s =
        deliver sink (.ok .proceed) (rule.tokensAfter run cs) s) := by
  induction cs with
  | nil =>
    constructor
    · intro offset s
      rw [scan, runs]
      rfl
    · intro run s
      rw [scan, close_eq, tokensAfter, List.takeWhile_nil, List.dropWhile_nil, List.append_nil, runs,
        List.filterMap_nil, List.append_nil]
  | cons c cs ih =>
    obtain ⟨ihClosed, ihOpen⟩ := ih
    constructor
    · intro offset s
      rw [scan]
      by_cases hb : rule.begins c = true
      · have h := ihOpen ⟨offset, [c]⟩ s
        rw [if_pos hb, filterMap_runs_of_begins hb, ← h]
        rfl
      · rw [if_neg hb, runs_of_not_begins hb, ihClosed]
    · intro run s
      rw [scan]
      by_cases hc : rule.continues c = true
      · have h := ihOpen { run with characters := c :: run.characters } s
        rw [tokensAfter, List.reverse_cons, List.append_assoc, List.singleton_append,
          Text.byteLength_append, ← Nat.add_assoc] at h
        rw [if_pos hc, tokensAfter, List.takeWhile_cons_of_pos hc, List.dropWhile_cons_of_pos hc, ← h]
        rfl
      · have hb : ¬ rule.begins c = true := fun hb => hc (coherent c hb)
        rw [if_neg hc, tokensAfter, List.takeWhile_cons_of_neg hc, List.dropWhile_cons_of_neg hc,
          List.append_nil, runs_of_not_begins hb, deliver_append, close_eq]
        generalize deliver sink (.ok .proceed) _ s = closed
        obtain ⟨answer, s⟩ := closed
        obtain e | flow := answer
        · rfl
        · cases flow with
          | proceed => exact ihClosed _ s
          | halt => rfl

/-- Reading a text hands its tokens to the sink one after another. -/
theorem tokenize_eq_deliver {rule : RunRule} (coherent : rule.Coherent) (sink : Sink σ) (text : String)
    (s : σ) : rule.tokenize sink text s = deliver sink (.ok .proceed) (rule.tokens text) s :=
  (scan_eq coherent sink text.toList).1 0 s

/-! ### Where the tokens stand -/

/-- A run is a part of the characters, at the byte at which it begins, and it is not empty. -/
theorem mem_runs {rule : RunRule} {offset : Nat} {cs : List Char} {run : Run}
    (h : run ∈ rule.runs offset cs) :
    ∃ front back, cs = front ++ run.characters ++ back ∧
      run.start = offset + Text.byteLength front ∧ run.characters ≠ [] := by
  induction offset, cs using runs.induct rule with
  | case1 offset => simp [runs] at h
  | case2 offset c cs hb ih =>
    rw [runs_of_begins hb] at h
    obtain rfl | h := List.mem_cons.mp h
    · refine ⟨[], cs.dropWhile rule.continues, ?_, rfl, List.cons_ne_nil c _⟩
      rw [List.nil_append, List.cons_append, List.takeWhile_append_dropWhile]
    · obtain ⟨front, back, hcs, hs, hne⟩ := ih h
      refine ⟨c :: cs.takeWhile rule.continues ++ front, back, ?_, ?_, hne⟩
      · rw [List.append_assoc, List.append_assoc, ← List.append_assoc front, ← hcs, List.cons_append,
          List.takeWhile_append_dropWhile]
      · rw [Text.byteLength_append, hs, Nat.add_assoc]
  | case3 offset c cs hb ih =>
    rw [runs_of_not_begins hb] at h
    obtain ⟨front, back, rfl, hs, hne⟩ := ih h
    refine ⟨c :: front, back, rfl, ?_, hne⟩
    rw [hs, Text.byteLength, Nat.add_assoc]

/-- Runs follow one another. -/
theorem runs_pairwise (rule : RunRule) (offset : Nat) (cs : List Char) :
    (rule.runs offset cs).Pairwise fun run next => run.stop ≤ next.start := by
  induction offset, cs using runs.induct rule with
  | case1 offset => rw [runs]; exact List.Pairwise.nil
  | case2 offset c cs hb ih =>
    rw [runs_of_begins hb]
    refine List.Pairwise.cons ?_ ih
    intro next hn
    obtain ⟨front, -, -, hs, -⟩ := mem_runs hn
    rw [hs]
    exact Nat.le_add_right _ _
  | case3 offset c cs hb ih => rwa [runs_of_not_begins hb]

/-- The token is what the rule makes of the text `source`, which stands at the token's place in
`text`. -/
structure TokenOf (rule : RunRule) (text source : String) (token : Token) : Prop where
  /-- The place of the token holds the source. -/
  source?_eq : token.source? text = some source
  /-- The source has a character. -/
  source_ne : source ≠ ""
  /-- The text of the token is the folded source. -/
  text_eq : token.text = rule.foldText source
  /-- Folding leaves something. -/
  text_ne : token.text ≠ ""
  /-- The token has a position of its own. -/
  colocated_eq : token.colocated = false

/-- The place of a token begins before it ends, and ends within the text. -/
theorem TokenOf.bounds {rule : RunRule} {text source : String} {token : Token}
    (h : rule.TokenOf text source token) :
    token.start < token.stop ∧ token.stop ≤ text.utf8ByteSize :=
  Text.bounds_of_slice? h.source?_eq h.source_ne

private theorem token?_eq_some {rule : RunRule} {run : Run} {token : Token}
    (h : rule.token? run = some token) :
    rule.foldAll run.characters ≠ [] ∧ token =
      { text := String.ofList (rule.foldAll run.characters), start := run.start, stop := run.stop } := by
  rw [token?] at h
  split at h
  · cases h
  · next hne => exact ⟨hne, (Option.some.inj h).symm⟩

/-- Each token of a text is made of the source at its place. -/
theorem tokenOf_of_mem {rule : RunRule} {text : String} {token : Token}
    (h : token ∈ rule.tokens text) : ∃ source, rule.TokenOf text source token := by
  obtain ⟨run, hr, ht⟩ := List.mem_filterMap.mp h
  obtain ⟨front, back, hcs, hs, hne⟩ := mem_runs hr
  obtain ⟨hf, rfl⟩ := token?_eq_some ht
  rw [Nat.zero_add] at hs
  refine ⟨String.ofList run.characters, ?_, ?_, ?_, ?_, rfl⟩
  · apply Text.slice?_eq_some_iff.mpr
    refine ⟨front, back, by rw [String.toList_ofList, hcs], hs.symm, ?_⟩
    rw [Text.utf8ByteSize_ofList]
    rfl
  · exact fun he => hne (String.ofList_eq_empty_iff.mp he)
  · rw [foldText, String.toList_ofList]
  · exact fun he => hf (String.ofList_eq_empty_iff.mp he)

/-- The tokens of a text follow one another. -/
theorem tokens_pairwise (rule : RunRule) (text : String) :
    (rule.tokens text).Pairwise fun token next => token.stop ≤ next.start := by
  apply List.Pairwise.filterMap rule.token? _ (rule.runs_pairwise 0 text.toList)
  intro run next hle token ht token' ht'
  obtain ⟨-, rfl⟩ := token?_eq_some ht
  obtain ⟨-, rfl⟩ := token?_eq_some ht'
  exact hle

end RunRule

end TextAnalysis
