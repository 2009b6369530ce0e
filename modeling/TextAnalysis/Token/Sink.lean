import TextAnalysis.Error
import TextAnalysis.Token.Basic

/-!
# Sinks

A tokenizer hands each token to a sink, which has a state of its own and answers whether it wants
more. When the sink has enough or fails, no further token is handed to it.
-/

namespace TextAnalysis

/-- Whether more tokens are wanted. -/
inductive Flow where
  | proceed
  | halt
deriving Repr, DecidableEq

/-- A consumer of tokens with a state of type `σ`. -/
abbrev Sink (σ : Type) := Token → σ → Except Error Flow × σ

namespace Sink

/-- The sink that keeps every token, the last one first, beside a state that it leaves alone. -/
def collect {σ : Type} : Sink (List Token × σ) := fun token (kept, s) =>
  (.ok .proceed, token :: kept, s)

end Sink

/-- Hand the tokens to the sink one after another, until it has enough or fails; if it takes them
all, the result is `ending`. -/
def deliver {σ : Type} (sink : Sink σ) (ending : Except Error Flow) :
    List Token → σ → Except Error Flow × σ
  | [], s => (ending, s)
  | token :: tokens, s =>
    match sink token s with
    | (.ok .proceed, s) => deliver sink ending tokens s
    | (answer, s) => (answer, s)

end TextAnalysis
