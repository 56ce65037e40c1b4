import FormulaText.Expr.Operator
import FormulaText.Token.Bracket

/-!
# Lexemes

A lexeme is what a fixed text of a notation stands for: a token, white space, or the delimiter
`\left` or `\right`, which goes with the bracket after it.
-/

namespace FormulaText

inductive Lexeme where
  | operator (op : Operator)
  | bracket (bracket : Bracket)
  | underscore
  | equal
  | space
  /-- `\left` if the bracket after it has to be an opening one, else `\right`. -/
  | delimiter (opens : Bool)
deriving DecidableEq

end FormulaText
