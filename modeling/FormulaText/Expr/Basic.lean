import FormulaText.Expr.Operator
import FormulaText.Number.Binary64

/-!
# Formulas

A formula is a tree. Brackets leave no node behind: the shape of the tree stands for them. The one
exception is a minus before a bracketed operation. Chains of sums nest to the right, so the tree
alone cannot tell `a - (b + c)` from `a - b + c`, and the node of the minus records which it was.
-/

namespace FormulaText

inductive Expr where
  /-- A numeral, together with a sign before it. -/
  | number (value : Binary64)
  /-- A free symbol such as `x`, `speed` or `Delta`. -/
  | symbol (name : String)
  /-- A control word that is neither a function nor a letter, such as `infty`. -/
  | control (name : String)
  /-- An infix operation. It is `grouped` if its right operand has to stay in brackets. -/
  | binary (op : Operator) (lhs rhs : Expr) (grouped : Bool)
  /-- A signed operand. It is `grouped` if the operand has to stay in brackets. -/
  | signed (sign : Sign) (operand : Expr) (grouped : Bool)
  /-- A function such as `sin` and its one argument. -/
  | apply (name : String) (argument : Expr)
  /-- A base with an index below it. -/
  | subscript (base index : Expr)
  /-- Two formulas with an equals sign between them. -/
  | equation (lhs rhs : Expr)
deriving DecidableEq

namespace Expr

def operator? : Expr → Option Operator
  | binary op _ _ _ => some op
  | _ => none

def isBinary (expr : Expr) : Bool := expr.operator?.isSome

def isSigned : Expr → Bool
  | signed _ _ _ => true
  | _ => false

def isSubscript : Expr → Bool
  | subscript _ _ => true
  | _ => false

def isNegativeNumber : Expr → Bool
  | number value => value.isNegative
  | _ => false

@[simp] theorem isBinary_binary (op : Operator) (lhs rhs : Expr) (grouped : Bool) :
    (binary op lhs rhs grouped).isBinary = true := rfl

theorem isBinary_iff {expr : Expr} :
    expr.isBinary = true ↔ ∃ op lhs rhs grouped, expr = binary op lhs rhs grouped := by
  cases expr <;> simp [isBinary, operator?]

end Expr

end FormulaText
