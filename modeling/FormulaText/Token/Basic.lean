import FormulaText.Expr.Operator
import FormulaText.Number.Shortest
import FormulaText.Text.Quoted
import FormulaText.Token.Bracket

/-!
# Tokens

The words of a formula, each with its place in the text. Lines and columns are counted from zero,
columns in characters.
-/

namespace FormulaText

inductive Token.Kind where
  | number (value : Binary64)
  | operator (op : Operator)
  | symbol (name : String)
  /-- A control word without its backslash. -/
  | control (name : String)
  /-- A name with an opening parenthesis right after it, in the linear notation. -/
  | call (name : String)
  | bracket (bracket : Bracket)
  | underscore
  | equal
  | endOfInput
deriving DecidableEq

/-- A token from `column` on, with the column right after it. -/
structure Token where
  kind : Token.Kind
  line : Nat
  column : Nat
  endColumn : Nat
deriving DecidableEq

namespace Token

namespace Kind

/-- A token as a message speaks of it. -/
def describe : Kind → String
  | number value => "number " ++ value.positional
  | operator op => "operator " ++ op.name
  | symbol name => "variable " ++ Text.quoted name
  | control name => "keyword " ++ Text.quoted name
  | call name => "call " ++ Text.quoted name
  | bracket ⟨mark, opens⟩ =>
    (if opens then "opening" else "closing") ++ " bracket \"" ++ String.singleton mark ++ "\""
  | underscore => "underscore"
  | equal => "equal"
  | endOfInput => "end of input"

def isClosingBracket : Kind → Bool
  | bracket b => !b.opens
  | _ => false

/-- Whether a token begins an operand without an operator before it, as `x` does in `2x`. A sign
does not, nor does a bracket other than a parenthesis. -/
def beginsFactor : Kind → Bool
  | number _ | symbol _ | control _ | call _ => true
  | bracket b => b = .opening '('
  | _ => false

end Kind

end Token

end FormulaText
