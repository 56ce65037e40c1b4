import FormulaText.Expr.Basic

/-!
# Precedence of operators in print

Operators bind in four tiers: sums, then products and quotients, then powers, then remainders. An
operand that binds looser than its operator is printed in brackets, and so are some operands that
would be read back as part of something else.
-/

namespace FormulaText

/-- The position of an operator in the order of binding. A higher one binds tighter. -/
def Operator.tier : Operator → Nat
  | .plus | .minus => 0
  | .multiply | .divide => 1
  | .exponent => 2
  | .modulus => 3

namespace Expr

def isLooser (expr : Expr) (op : Operator) : Bool := expr.operator?.any (·.tier < op.tier)

def needsBracketsLeft (op : Operator) (lhs : Expr) : Bool :=
  lhs.isLooser op || (op = .exponent && lhs.isNegativeNumber)

def needsBracketsRight (op : Operator) (rhs : Expr) (grouped : Bool) : Bool :=
  rhs.isLooser op || (op = .divide && rhs.isBinary) || grouped || rhs.isSigned ||
    (op = .exponent && rhs.isNegativeNumber)

/-- Whether an index is a single letter, which needs no brackets. -/
def isLetter : Expr → Bool
  | symbol name => name.length = 1
  | _ => false

end Expr

end FormulaText
