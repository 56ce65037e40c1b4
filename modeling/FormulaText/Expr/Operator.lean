/-!
# Operators and signs

The six infix operators of a formula and the two signs that stand before an operand.
-/

namespace FormulaText

inductive Sign where
  | plus
  | minus
deriving DecidableEq

inductive Operator where
  | plus
  | minus
  | multiply
  | divide
  | modulus
  | exponent
deriving DecidableEq

namespace Operator

def all : List Operator := [plus, minus, multiply, divide, modulus, exponent]

/-- The character for an operator in the linear notation. -/
def symbol : Operator → Char
  | plus => '+'
  | minus => '-'
  | multiply => '*'
  | divide => '/'
  | modulus => '%'
  | exponent => '^'

def name : Operator → String
  | plus => "plus"
  | minus => "minus"
  | multiply => "multiply"
  | divide => "divide"
  | modulus => "modulus"
  | exponent => "exponent"

/-- The sign that an operator is when it has no left operand. -/
def sign? : Operator → Option Sign
  | plus => some .plus
  | minus => some .minus
  | _ => none

end Operator

end FormulaText
