import TextAnalysis.Token.Sink

/-!
# Laws of delivery

Handing tokens to a sink one after another can be done in parts. It goes on to the first token at which the
sink has enough or fails, or else to the end. A sink can be made to note what it is handed, which changes
nothing else; the notes then hold the first of the tokens, up to that one.
-/

namespace TextAnalysis

variable {σ : Type}

/-- A token that is wanted is handed over before those after it. -/
theorem deliver_cons_of_proceed {sink : Sink σ} {ending : Except Error Flow} {token : Token}
    {tokens : List Token} {s : σ} (h : (sink token s).1 = .ok .proceed) :
    deliver sink ending (token :: tokens) s = deliver sink ending tokens (sink token s).2 := by
  have hs : sink token s = (.ok .proceed, (sink token s).2) := Prod.ext h rfl
  rw [deliver, hs]

/-- At the first other answer the delivery ends with that answer. -/
theorem deliver_cons_of_ne_proceed {sink : Sink σ} {ending : Except Error Flow} {token : Token}
    {tokens : List Token} {s : σ} (h : (sink token s).1 ≠ .ok .proceed) :
    deliver sink ending (token :: tokens) s = sink token s := by
  rw [deliver]
  split
  · next hs => exact absurd (congrArg Prod.fst hs) h
  · next hs => exact hs.symm

/-- The delivery of one token is the answer of the sink to it. -/
theorem deliver_singleton (sink : Sink σ) (token : Token) (s : σ) :
    deliver sink (.ok .proceed) [token] s = sink token s := by
  by_cases h : (sink token s).1 = .ok .proceed
  · rw [deliver_cons_of_proceed h, deliver, ← h]
  · rw [deliver_cons_of_ne_proceed h]

/-- Tokens in two parts are delivered part by part, the second only if all of the first are wanted. -/
theorem deliver_append (sink : Sink σ) (ending : Except Error Flow) (front back : List Token) (s : σ) :
    deliver sink ending (front ++ back) s =
      match deliver sink (.ok .proceed) front s with
      | (.ok .proceed, s) => deliver sink ending back s
      | (answer, s) => (answer, s) := by
  induction front generalizing s with
  | nil => rfl
  | cons token front ih =>
    rw [List.cons_append]
    by_cases h : (sink token s).1 = .ok .proceed
    · rw [deliver_cons_of_proceed h, deliver_cons_of_proceed h, ih]
    · rw [deliver_cons_of_ne_proceed h, deliver_cons_of_ne_proceed h]
      split
      · next hs => exact absurd (congrArg Prod.fst hs) h
      · next hs => exact hs

namespace Sink

/-- The state of the sink when it has been handed the tokens. -/
def after (sink : Sink σ) (tokens : List Token) (s : σ) : σ :=
  tokens.foldl (fun s token => (sink token s).2) s

/-- The sink wants more at each of the tokens. -/
def WantsAll (sink : Sink σ) : List Token → σ → Prop
  | [], _ => True
  | token :: tokens, s => (sink token s).1 = .ok .proceed ∧ sink.WantsAll tokens (sink token s).2

/-- The sink wants more at each of the tokens, or there is a first one at which it has enough or fails. -/
theorem wantsAll_or_exists_first (sink : Sink σ) (tokens : List Token) (s : σ) :
    sink.WantsAll tokens s ∨ ∃ front token back, tokens = front ++ token :: back ∧
      sink.WantsAll front s ∧ (sink token (sink.after front s)).1 ≠ .ok .proceed := by
  induction tokens generalizing s with
  | nil => exact .inl trivial
  | cons token tokens ih =>
    by_cases h : (sink token s).1 = .ok .proceed
    · obtain wants | ⟨front, last, back, rfl, wants, ends⟩ := ih (sink token s).2
      · exact .inl ⟨h, wants⟩
      · exact .inr ⟨token :: front, last, back, rfl, ⟨h, wants⟩, ends⟩
    · exact .inr ⟨[], token, tokens, rfl, trivial, h⟩

/-- The sink that notes each token it is handed, the last one first, and answers as `sink` does. -/
def noting (sink : Sink σ) : Sink (List Token × σ) := fun token (noted, s) =>
  ((sink token s).1, token :: noted, (sink token s).2)

/-- The sink on a state with one part more, which it leaves alone. -/
def beside (τ : Type) (sink : Sink σ) : Sink (τ × σ) := fun token (t, s) =>
  ((sink token s).1, t, (sink token s).2)

end Sink

/-- Tokens that are all wanted are handed over before those after them. -/
theorem deliver_append_of_wantsAll {sink : Sink σ} {front : List Token} {s : σ}
    (wants : sink.WantsAll front s) (ending : Except Error Flow) (back : List Token) :
    deliver sink ending (front ++ back) s = deliver sink ending back (sink.after front s) := by
  induction front generalizing s with
  | nil => rfl
  | cons token front ih =>
    obtain ⟨h, wants⟩ := wants
    rw [List.cons_append, deliver_cons_of_proceed h]
    exact ih wants

namespace Sink

/-- A sink that notes what it is handed wants what it wants without. -/
theorem WantsAll.noting {sink : Sink σ} {tokens : List Token} {s : σ} (wants : sink.WantsAll tokens s)
    (noted : List Token) : sink.noting.WantsAll tokens (noted, s) := by
  induction tokens generalizing noted s with
  | nil => trivial
  | cons token tokens ih => exact ⟨wants.1, ih wants.2 (token :: noted)⟩

/-- The notes of a sink are the tokens that it has been handed, the last one first. -/
theorem after_noting (sink : Sink σ) (tokens noted : List Token) (s : σ) :
    sink.noting.after tokens (noted, s) = (tokens.reverse ++ noted, sink.after tokens s) := by
  induction tokens generalizing noted s with
  | nil => rfl
  | cons token tokens ih =>
    rw [List.reverse_cons, List.append_assoc]
    exact ih (token :: noted) (sink token s).2

end Sink

/-- A delivery hands over all tokens and ends as it is to end, or it ends at the first token at which the sink
has enough or fails, with that answer. A sink that notes what it is handed notes all tokens, or those up to
that one. -/
theorem deliver_cases (sink : Sink σ) (ending : Except Error Flow) (tokens noted : List Token) (s : σ) :
    (sink.WantsAll tokens s ∧ deliver sink ending tokens s = (ending, sink.after tokens s) ∧
      deliver sink.noting ending tokens (noted, s) =
        (ending, tokens.reverse ++ noted, sink.after tokens s)) ∨
    ∃ front token back, tokens = front ++ token :: back ∧ sink.WantsAll front s ∧
      (sink token (sink.after front s)).1 ≠ .ok .proceed ∧
      deliver sink ending tokens s = sink token (sink.after front s) ∧
      deliver sink.noting ending tokens (noted, s) =
        ((sink token (sink.after front s)).1, (front ++ [token]).reverse ++ noted,
          (sink token (sink.after front s)).2) := by
  obtain wants | ⟨front, token, back, rfl, wants, ends⟩ := sink.wantsAll_or_exists_first tokens s
  · have whole := deliver_append_of_wantsAll wants ending []
    have wholeNoted := deliver_append_of_wantsAll (wants.noting noted) ending []
    rw [List.append_nil] at whole wholeNoted
    rw [Sink.after_noting] at wholeNoted
    exact .inl ⟨wants, whole, wholeNoted⟩
  · refine .inr ⟨front, token, back, rfl, wants, ends, ?_, ?_⟩
    · rw [deliver_append_of_wantsAll wants, deliver_cons_of_ne_proceed ends]
    · have endsNoted :
          (sink.noting token (front.reverse ++ noted, sink.after front s)).1 ≠ .ok .proceed := ends
      rw [deliver_append_of_wantsAll (wants.noting noted), Sink.after_noting,
        deliver_cons_of_ne_proceed endsNoted, List.reverse_concat]
      rfl

/-- The notes hold the first of the tokens, and noting changes nothing else. A delivery fails only as it
was to end or with an error that the sink gave at a token that is noted. -/
theorem deliver_noting (sink : Sink σ) (ending : Except Error Flow) (tokens noted : List Token) (s : σ) :
    ∃ handed : List Token, handed <+: tokens ∧
      deliver sink.noting ending tokens (noted, s) =
        ((deliver sink ending tokens s).1, handed.reverse ++ noted, (deliver sink ending tokens s).2) ∧
      ∀ e, (deliver sink ending tokens s).1 = .error e →
        ending = .error e ∨ ∃ token ∈ handed, ∃ s', (sink token s').1 = .error e := by
  obtain ⟨-, whole, notes⟩ | ⟨front, token, back, rfl, -, -, ended, notes⟩ :=
    deliver_cases sink ending tokens noted s
  · refine ⟨tokens, List.prefix_rfl, by rw [notes, whole], fun e failed => .inl ?_⟩
    rwa [whole] at failed
  · refine ⟨front ++ [token], ⟨back, List.append_cons .. |>.symm⟩, by rw [notes, ended], ?_⟩
    intro e failed
    rw [ended] at failed
    exact .inr ⟨token, List.mem_append_right front (List.mem_singleton_self token), _, failed⟩

/-- All tokens are kept, the last one first, and the delivery ends as it is to end. -/
theorem deliver_collect (ending : Except Error Flow) (tokens kept : List Token) (s : σ) :
    deliver Sink.collect ending tokens (kept, s) = (ending, tokens.reverse ++ kept, s) := by
  induction tokens generalizing kept with
  | nil => rfl
  | cons token tokens ih =>
    rw [deliver_cons_of_proceed rfl, List.reverse_cons, List.append_assoc]
    exact ih (token :: kept)

/-- A delivery leaves alone what the sink leaves alone. -/
theorem deliver_beside {τ : Type} (sink : Sink σ) (ending : Except Error Flow) (tokens : List Token)
    (t : τ) (s : σ) :
    deliver (sink.beside τ) ending tokens (t, s) =
      ((deliver sink ending tokens s).1, t, (deliver sink ending tokens s).2) := by
  induction tokens generalizing s with
  | nil => rfl
  | cons token tokens ih =>
    by_cases h : (sink token s).1 = .ok .proceed
    · have hb : (sink.beside τ token (t, s)).1 = .ok .proceed := h
      rw [deliver_cons_of_proceed h, deliver_cons_of_proceed hb]
      exact ih (sink token s).2
    · have hb : (sink.beside τ token (t, s)).1 ≠ .ok .proceed := h
      rw [deliver_cons_of_ne_proceed h, deliver_cons_of_ne_proceed hb]
      rfl

end TextAnalysis
