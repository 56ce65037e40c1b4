import FormulaText.Token.SyntaxError

/-!
# Sources of tokens

A source gives one token at a time, or an error where the text has none. A source is finite if the
tokens before the end of its input cannot go on for ever.
-/

namespace FormulaText

/-- A state from which tokens can be pulled, and the text that errors point into. -/
class TokenSource (σ : Type) where
  text : σ → String
  next : σ → Except SyntaxError Token × σ

/-- A source with a bound on the number of tokens that it gives before the end of its input. -/
class FiniteTokenSource (σ : Type) extends TokenSource σ where
  bound : σ → Nat
  bound_lt : ∀ {source rest : σ} {token : Token}, next source = (.ok token, rest) →
    token.kind ≠ .endOfInput → bound rest < bound source

namespace TokenSource

variable {σ : Type} [TokenSource σ]

/-- What a source gives up to the end of its input or the first error, but no more than `limit`
answers. -/
def drain : Nat → σ → List (Except SyntaxError Token) × σ
  | 0, source => ([], source)
  | limit + 1, source =>
    match next source with
    | (.error error, rest) => ([.error error], rest)
    | (.ok token, rest) =>
      if token.kind = .endOfInput then ([.ok token], rest)
      else
        let (answers, last) := drain limit rest
        (.ok token :: answers, last)

end TokenSource

end FormulaText
