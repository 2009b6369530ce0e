import Mathlib.Data.List.Induction
import TextAnalysis.Proofs.Tokenizer.Layers
import TextAnalysis.Tokenizer.Snippet

/-!
# Snippets and the tokens of a document

Positions in a snippet are those of the tokens of the text as a document. A snippet runs from where its first
token begins to where its last one ends, and there is always such a piece of the text. To find it, a text is
read up to the last token and no further.
-/

namespace TextAnalysis

open StopWords

variable {S L σ : Type}

namespace Tokenizer

/-! ### Spans -/

/-- The span of tokens runs from the one at `first`, if there is one, to the last. -/
theorem SpanSoFar.foldl_extend (first : Nat) (tokens : List Token) :
    tokens.foldl (extend first) {} =
      { seen := tokens.length
        reach := tokens[first]?.bind fun f => tokens.getLast?.map fun l => (f.start, l.stop) } := by
  induction tokens using List.reverseRecOn with
  | nil => rfl
  | append_singleton tokens token ih =>
    rw [List.foldl_concat, ih, extend, List.length_append, List.length_singleton, List.getLast?_concat]
    congr 1
    obtain before | here | behind := Nat.lt_trichotomy first tokens.length
    · rw [if_neg (Nat.ne_of_gt before), List.getElem?_append_left before,
        List.getElem?_eq_getElem before]
      cases last : tokens.getLast? with
      | none =>
        rw [List.getLast?_eq_none_iff.mp last] at before
        exact absurd before (Nat.not_lt_zero _)
      | some l => rfl
    · rw [if_pos here.symm, here, List.getElem?_concat_length]
      rfl
    · have short : tokens.length ≤ first := Nat.le_of_lt behind
      have short' : (tokens ++ [token]).length ≤ first := by
        rw [List.length_append, List.length_singleton]
        exact behind
      rw [if_neg (Nat.ne_of_lt behind), List.getElem?_eq_none short, List.getElem?_eq_none short']
      rfl

/-- The sink that follows a span has enough at the token at `last`. What it has been handed then is the
tokens up to that one. -/
theorem deliver_spanningSink_noting (first last : Nat) (tokens noted : List Token) {span : SpanSoFar}
    (le : span.seen ≤ last) (s : σ) :
    deliver (spanningSink first last).noting (.ok .proceed) tokens (noted, span, s) =
      (.ok (if last < span.seen + tokens.length then .halt else .proceed),
        (tokens.take (last + 1 - span.seen)).reverse ++ noted,
        (tokens.take (last + 1 - span.seen)).foldl (SpanSoFar.extend first) span, s) := by
  induction tokens generalizing noted span with
  | nil =>
    have here : ¬ last < span.seen + ([] : List Token).length := by
      rw [List.length_nil]
      omega
    rw [if_neg here, List.take_nil]
    rfl
  | cons token tokens ih =>
    by_cases here : span.seen = last
    · have one : last + 1 - span.seen = 1 := by omega
      have enough : last < span.seen + (token :: tokens).length := by
        rw [List.length_cons]
        omega
      have halts : ((spanningSink first last).noting token (noted, span, s)).1 ≠ .ok .proceed := by
        simp [Sink.noting, spanningSink, here]
      rw [deliver_cons_of_ne_proceed halts, one, if_pos enough]
      simp [Sink.noting, spanningSink, here]
    · have goesOn : ((spanningSink first last).noting token (noted, span, s)).1 = .ok .proceed := by
        simp [Sink.noting, spanningSink, here]
      have more : last + 1 - span.seen = (last + 1 - (span.extend first token).seen) + 1 := by
        simp only [SpanSoFar.extend]
        omega
      have seen : (span.extend first token).seen + tokens.length = span.seen + (token :: tokens).length := by
        simp only [SpanSoFar.extend, List.length_cons]
        omega
      have below : (span.extend first token).seen ≤ last := by
        simp only [SpanSoFar.extend]
        omega
      rw [deliver_cons_of_proceed goesOn, more, List.take_succ_cons, List.reverse_cons, List.append_assoc,
        List.foldl_cons, ← seen]
      exact ih (token :: noted) below

/-- The sink that follows a span as `spanningSink` does, but never has enough: it lets the tokens after the
one at `last` pass. -/
def patientSink (first last : Nat) : Sink (SpanSoFar × σ) := fun token (span, s) =>
  (.ok .proceed,
    if span.seen ≤ last then span.extend first token else { span with seen := span.seen + 1 }, s)

/-- Tokens after the one at `last` make no difference to the span. -/
theorem deliver_patientSink (first last : Nat) (tokens : List Token) (span : SpanSoFar) (s : σ) :
    ∃ seen, deliver (patientSink first last) (.ok .proceed) tokens (span, s) =
      (.ok .proceed,
        ⟨seen, ((tokens.take (last + 1 - span.seen)).foldl (SpanSoFar.extend first) span).reach⟩, s) := by
  induction tokens generalizing span with
  | nil =>
    rw [List.take_nil]
    exact ⟨span.seen, rfl⟩
  | cons token tokens ih =>
    rw [deliver_cons_of_proceed rfl]
    by_cases counts : span.seen ≤ last
    · have more : last + 1 - span.seen = (last + 1 - (span.extend first token).seen) + 1 := by
        simp only [SpanSoFar.extend]
        omega
      rw [patientSink, if_pos counts, more, List.take_succ_cons, List.foldl_cons]
      exact ih (span.extend first token)
    · have none : last + 1 - span.seen = 0 := by omega
      have none' : last + 1 - (span.seen + 1) = 0 := by omega
      obtain ⟨seen, delivered⟩ := ih { span with seen := span.seen + 1 }
      rw [none', List.take_zero] at delivered
      rw [patientSink, if_neg counts, none, List.take_zero]
      exact ⟨seen, delivered⟩

/-- A snippet as it is found when all tokens of the text are read. -/
def patientSnippet (t : Tokenizer S L) (access : Access S L σ) (text : String) (first count : Nat) (s : σ) :
    Except Error String :=
  if count = 0 then .ok ""
  else
    let (answer, _, span, _) :=
      t.tokenize text .forAuxiliary (access.beside SpanSoFar)
        (patientSink first (lastPosition first count)) ({}, s)
    answer.map fun _ => (span.reach.bind fun r => Text.slice? text r.1 r.2).getD ""

/-! ### What is delivered -/

section Delivered

variable {t : Tokenizer S L} {text : String} {tokens : List Token}

/-- Tokens that are delivered to the end are counted. -/
theorem Delivers.count_eq (delivers : t.Delivers text .forAuxiliary tokens (.ok .proceed))
    (access : Access S L σ) (s : σ) : (t.count access text s).1 = .ok tokens.length := by
  have counted : ∀ (tokens : List Token) (n : Nat),
      deliver countingSink (.ok .proceed) tokens (n, s) = (.ok .proceed, n + tokens.length, s) := by
    intro tokens
    induction tokens with
    | nil => exact fun n => rfl
    | cons token tokens ih =>
      intro n
      rw [deliver_cons_of_proceed rfl, List.length_cons, Nat.add_comm tokens.length, ← Nat.add_assoc]
      exact ih (n + 1)
  obtain ⟨t', delivered⟩ := delivers (access.beside Nat) countingSink (0, s)
  rw [count, delivered, counted, Nat.zero_add]
  rfl

/-- The part of a text that tokens span from the one at `first` to the last. -/
def spannedPart (text : String) (first : Nat) (tokens : List Token) : String :=
  ((tokens.foldl (SpanSoFar.extend first) {}).reach.bind fun r => Text.slice? text r.1 r.2).getD ""

/-- A snippet is what is spanned by the tokens up to its last one, which are all that are handed over. -/
theorem Delivers.snippet_eq (delivers : t.Delivers text .forAuxiliary tokens (.ok .proceed))
    (access : Access S L σ) (first : Nat) {count : Nat} (wanted : 0 < count) (s : σ) :
    (t.snippet access text first count s).1 =
        .ok (spannedPart text first (tokens.take (lastPosition first count + 1))) ∧
      t.patientSnippet access text first count s =
        .ok (spannedPart text first (tokens.take (lastPosition first count + 1))) ∧
      t.handed (access.beside SpanSoFar) text .forAuxiliary
          (spanningSink first (lastPosition first count)) ({}, s) =
        tokens.take (lastPosition first count + 1) := by
  have unread : ({} : SpanSoFar).seen ≤ lastPosition first count := Nat.zero_le _
  have noting := deliver_spanningSink_noting first (lastPosition first count) tokens [] unread s
  obtain ⟨handed, -, both, -⟩ := deliver_noting (spanningSink first (lastPosition first count))
    (.ok .proceed) tokens [] ({}, s)
  rw [noting] at both
  obtain ⟨answer, -, state⟩ := Prod.mk.inj both |>.imp id Prod.mk.inj
  refine ⟨?_, ?_, ?_⟩
  · obtain ⟨t', delivered⟩ := delivers (access.beside SpanSoFar)
      (spanningSink first (lastPosition first count)) ({}, s)
    rw [snippet, if_neg (Nat.ne_of_gt wanted), delivered, ← answer, ← state]
    rfl
  · obtain ⟨t', delivered⟩ := delivers (access.beside SpanSoFar)
      (patientSink first (lastPosition first count)) ({}, s)
    obtain ⟨seen, patient⟩ := deliver_patientSink first (lastPosition first count) tokens {} s
    rw [patientSnippet, if_neg (Nat.ne_of_gt wanted), delivered, patient]
    rfl
  · obtain ⟨t', delivered⟩ := delivers ((access.beside SpanSoFar).beside (List Token))
      (spanningSink first (lastPosition first count)).noting ([], {}, s)
    rw [Tokenizer.handed, delivered, noting, List.append_nil, List.reverse_reverse]
    rfl

end Delivered

/-! ### Positions -/

section Positions

variable {tokens : List Token} {first count : Nat}

/-- Of fewer tokens than can be counted, as many are reached as are asked for. -/
private theorem take_lastPosition (counted : tokens.length < Text.countLimit) (wanted : 0 < count) :
    tokens.take (lastPosition first count + 1) = tokens.take (first + count) := by
  rw [List.take_eq_take_iff, lastPosition]
  omega

/-- No part is spanned where there is no first token. -/
private theorem spannedPart_of_le (text : String) (beyond : tokens.length ≤ first) (n : Nat) :
    spannedPart text first (tokens.take n) = "" := by
  have none : (tokens.take n)[first]? = none :=
    List.getElem?_eq_none (Nat.le_trans (List.length_take_le' n tokens) beyond)
  rw [spannedPart, SpanSoFar.foldl_extend, none]
  rfl

/-- What is spanned runs from where the first token begins to where the last one ends, which is the last token
of all if more are asked for than there are. -/
private theorem exists_spannedPart {text : String} (placed : Placed text tokens)
    (within : first < tokens.length) (wanted : 0 < count) :
    ∃ f l, tokens[first]? = some f ∧ tokens[min (first + count - 1) (tokens.length - 1)]? = some l ∧
      Text.slice? text f.start l.stop = some (spannedPart text first (tokens.take (first + count))) := by
  have last : min (first + count - 1) (tokens.length - 1) < tokens.length := by omega
  have hf := List.getElem?_eq_getElem within
  have hl := List.getElem?_eq_getElem last
  obtain ⟨part, between⟩ := placed.exists_slice? (by omega) hf hl
  refine ⟨_, _, hf, hl, ?_⟩
  have first_eq : (tokens.take (first + count))[first]? = some tokens[first] := by
    rw [List.getElem?_take_of_lt (by omega), hf]
  have last_eq : (tokens.take (first + count)).getLast? =
      some tokens[min (first + count - 1) (tokens.length - 1)] := by
    rw [List.getLast?_eq_getElem?, List.length_take, List.getElem?_take_of_lt (by omega), ← hl]
    congr 1
    omega
  rw [spannedPart, SpanSoFar.foldl_extend, first_eq, last_eq, Option.bind_some, Option.map_some,
    Option.bind_some, between]
  rfl

end Positions

/-- A tokenizer over a plain one, with its oracle in any state, counts the tokens that the text has as a
document, and finds each snippet: the piece of the text from where the token at `first` begins to where the
one ends that is `count - 1` positions further on, or the last of all, and the empty text if there is no such
token or none is wanted. Reading on makes no difference, and the tokens after the snippet are not handed over.
The text may be of any length that can be counted. -/
theorem snippet_of_document {t : Tokenizer S L} (overPlain : t.OverPlain) {text : String}
    (countable : text.utf8ByteSize < Text.countLimit) (access : Access S L σ) (s : σ) :
    ∃ tokens, (t.collect access text .forDocument s).1 = .ok tokens ∧
      (t.count access text s).1 = .ok tokens.length ∧
      ∀ first count,
        (count = 0 ∨ tokens.length ≤ first → (t.snippet access text first count s).1 = .ok "") ∧
        (0 < count → first < tokens.length → ∃ f l part,
          tokens[first]? = some f ∧ tokens[min (first + count - 1) (tokens.length - 1)]? = some l ∧
            Text.slice? text f.start l.stop = some part ∧
            (t.snippet access text first count s).1 = .ok part) ∧
        (t.snippet access text first count s).1 = t.patientSnippet access text first count s ∧
        (0 < count →
          t.handed (access.beside SpanSoFar) text .forAuxiliary
              (spanningSink first (lastPosition first count)) ({}, s) =
            tokens.take (first + count)) := by
  have placed := overPlain.placed text
  have counted : (t.allTokens text).length < Text.countLimit :=
    Nat.lt_of_le_of_lt placed.length_le countable
  have document : t.Delivers text .forDocument (t.allTokens text) (.ok .proceed) :=
    overPlain.delivers (suppresses_eq_false (.inl rfl) t text)
  have auxiliary : t.Delivers text .forAuxiliary (t.allTokens text) (.ok .proceed) :=
    overPlain.delivers (suppresses_eq_false (.inl rfl) t text)
  refine ⟨t.allTokens text, document.collect_eq access s, auxiliary.count_eq access s, ?_⟩
  intro first count
  obtain rfl | wanted := Nat.eq_zero_or_pos count
  · have nothing : (t.snippet access text first 0 s).1 = .ok "" := by
      rw [snippet, if_pos rfl]
    refine ⟨fun _ => nothing, fun positive => absurd positive (Nat.lt_irrefl 0), ?_,
      fun positive => absurd positive (Nat.lt_irrefl 0)⟩
    rw [nothing, patientSnippet, if_pos rfl]
  · obtain ⟨found, patient, handed⟩ := auxiliary.snippet_eq access first wanted s
    rw [take_lastPosition counted wanted] at found patient handed
    refine ⟨?_, ?_, found.trans patient.symm, fun _ => handed⟩
    · rintro (rfl | beyond)
      · exact absurd wanted (Nat.lt_irrefl 0)
      · rw [found, spannedPart_of_le text beyond]
    · intro _ within
      obtain ⟨f, l, hf, hl, part⟩ := exists_spannedPart placed within wanted
      exact ⟨f, l, _, hf, hl, part, found⟩

/-- Positions are those of the words that are long enough. A snippet has the words between them as well, as
they were written, and may be asked for more words than can be counted. -/
theorem snippet_of_long_words :
    let t : Tokenizer Store Lookup :=
      stemming (.unicode {}) ⟨⟨[.english], List.cons_ne_nil _ _⟩, 3⟩
        { store := .memory 0, handle := .failed }
    let access : Access Store Lookup Unit := ({} : Holdings).access
    let text := "Öl is a fuel of Élan, really"
    t.OverPlain ∧ text.utf8ByteSize < Text.countLimit ∧ (t.count access text ()).1 = .ok 3 ∧
      (t.snippet access text 0 2 ()).1 = .ok "fuel of Élan" ∧
      (t.snippet access text 2 0xFFFFFFFFFFFFFFFF ()).1 = .ok "really" := by
  intro t access text
  have overPlain : t.OverPlain := trivial
  have countable : text.utf8ByteSize < Text.countLimit := by decide
  have long : (t.collect access text .forDocument ()).1 =
      .ok [⟨"fuel", 9, 13, false⟩, ⟨"elan", 17, 22, false⟩, ⟨"really", 24, 30, false⟩] := by
    decide +kernel
  obtain ⟨tokens, document, count, snippets⟩ := snippet_of_document overPlain countable access ()
  obtain rfl := Except.ok.inj (document.symm.trans long)
  refine ⟨overPlain, countable, count, ?_, ?_⟩
  · obtain ⟨f, l, part, hf, hl, between, found⟩ := (snippets 0 2).2.1 (by decide) (by decide)
    cases hf
    cases hl
    rw [found, ← Option.some.inj (between.symm.trans (by decide +kernel : _ = some "fuel of Élan"))]
  · obtain ⟨f, l, part, hf, hl, between, found⟩ :=
      (snippets 2 0xFFFFFFFFFFFFFFFF).2.1 (by decide) (by decide)
    cases hf
    cases hl
    rw [found, ← Option.some.inj (between.symm.trans (by decide +kernel : _ = some "really"))]

end Tokenizer

end TextAnalysis
